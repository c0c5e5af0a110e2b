import ImageForge.Number.Shortest
/-!
Documents: null, booleans, numbers, texts, lists, and objects whose keys are distinct and sorted.
-/

namespace ImageForge

/-- A number of a document: an integer of 64 bits, or a double. -/
inductive JsonNumber
  | int (n : Int)
  | real (b : Number.Binary64)
  deriving DecidableEq, Repr, Inhabited

inductive Json
  | null
  | bool (b : Bool)
  | num (n : JsonNumber)
  | str (s : String)
  | arr (items : List Json)
  | obj (fields : List (String × Json))
  deriving Repr, Inhabited

namespace Json

/-- The entry for a key in a list of fields. -/
def lookup (key : String) (fields : List (String × Json)) : Option Json :=
  (fields.find? (·.1 = key)).map (·.2)

/-- Puts an entry in its place, replacing the one of the same key. -/
def insert (key : String) (value : Json) : List (String × Json) → List (String × Json)
  | [] => [(key, value)]
  | (k, v) :: rest =>
    if key = k then (key, value) :: rest
    else if key < k then (key, value) :: (k, v) :: rest
    else (k, v) :: insert key value rest

/-- An object from entries in any order; of two for one key the later counts. -/
def ofEntries (entries : List (String × Json)) : Json :=
  .obj (entries.foldl (fun fields e => insert e.1 e.2 fields) [])

/-- An object from entries some of which may be absent. -/
def ofOptional (entries : List (String × Option Json)) : Json :=
  ofEntries (entries.filterMap fun e => e.2.map (e.1, ·))

/-- The entries for other keys than the given ones. -/
def without (keys : List String) (fields : List (String × Json)) : List (String × Json) :=
  fields.filter (·.1 ∉ keys)

/-- The entry for a key, of an object. -/
def get? (key : String) : Json → Option Json
  | .obj fields => lookup key fields
  | _ => none

def ofNat (n : Nat) : Json := .num (.int n)

def ofInt (n : Int) : Json := .num (.int n)

/-- The list of some texts. -/
def ofTexts (texts : List String) : Json := .arr (texts.map .str)

theorem lookup_insert_self (key : String) (value : Json) (fields : List (String × Json)) :
    lookup key (insert key value fields) = some value := by
  induction fields with
  | nil => simp [insert, lookup]
  | cons f fs ih =>
    obtain ⟨k, v⟩ := f
    simp only [insert]
    split
    · simp [lookup]
    · split
      · simp [lookup]
      next hne _ =>
        have : ¬ k = key := fun h => hne h.symm
        simpa [lookup, List.find?_cons, this] using ih

theorem lookup_insert_of_ne {key other : String} (h : other ≠ key) (value : Json)
    (fields : List (String × Json)) :
    lookup other (insert key value fields) = lookup other fields := by
  have h' : ¬ key = other := fun e => h e.symm
  induction fields with
  | nil => simp [insert, lookup, h']
  | cons f fs ih =>
    obtain ⟨k, v⟩ := f
    simp only [insert]
    split
    next e => subst e; simp [lookup, h']
    · split
      · simp [lookup, List.find?_cons, h']
      · by_cases hk : k = other
        · simp [lookup, hk]
        · simpa [lookup, List.find?_cons, hk] using ih

end Json

end ImageForge
