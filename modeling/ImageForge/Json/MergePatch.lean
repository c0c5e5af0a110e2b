import ImageForge.Json.Basic
/-!
Merge patches: an object patches the entries it names, null removes an entry, and anything else
replaces what was there.
-/

namespace ImageForge.Json

/-- The fields without the entry for a key. -/
def erase (key : String) (fields : List (String × Json)) : List (String × Json) :=
  fields.filter (·.1 ≠ key)

/-- The fields of an object; a document of another kind has none. -/
def fieldsOf : Json → List (String × Json)
  | .obj fields => fields
  | _ => []

mutual

/-- The document after a patch. -/
def mergePatch (target : Json) : Json → Json
  | .obj patch => .obj (mergeFields (fieldsOf target) patch)
  | .null => .null
  | .bool b => .bool b
  | .num n => .num n
  | .str s => .str s
  | .arr items => .arr items

/-- The fields after the entries of a patch, one after another. -/
def mergeFields (fields : List (String × Json)) : List (String × Json) → List (String × Json)
  | [] => fields
  | (key, .null) :: patch => mergeFields (erase key fields) patch
  | (key, value) :: patch =>
    mergeFields (insert key (mergePatch ((lookup key fields).getD .null) value) fields) patch

end

theorem lookup_erase_self (key : String) (fields : List (String × Json)) :
    lookup key (erase key fields) = none := by
  simp [lookup, erase, List.find?_eq_none]

end ImageForge.Json
