import ImageForge.Json.Decode
import ImageForge.Json.Written
/-!
Shapes: which documents are values of a type, and how each of them is written again. In an object null
and absence are the same, a required field that is absent has its blank value, and fields that the
shape does not name are dropped.
-/

namespace ImageForge

/-- A shape. The fields of an object come with their names and whether they are always written. Where
`unique` holds, an object must not write a field twice and may be written as the list of its fields;
elsewhere the later one counts. A variant is written as its name, or as an object with nothing in it
but that name. -/
inductive Shape
  | anything
  | constant (s : String)
  | text
  | variant
  | boolean
  | int32
  | int64
  | instant
  | numberOrText
  | list (item : Shape)
  | map (item : Shape)
  | object (unique : Bool) (fields : List (String × Bool × Shape))

namespace Shape

/-- A field that is always written. -/
def always (name : String) (s : Shape) : String × Bool × Shape := (name, true, s)

/-- A field that is written when it is there. -/
def maybe (name : String) (s : Shape) : String × Bool × Shape := (name, false, s)

/-- Fields that are written when they are there, all of one shape. -/
def maybeEach (names : List String) (s : Shape) : List (String × Bool × Shape) :=
  names.map (maybe · s)

/-- Fields that are always written, all of one shape. -/
def alwaysEach (names : List String) (s : Shape) : List (String × Bool × Shape) :=
  names.map (always · s)

/-- An object in which the later of two entries for one field counts. -/
def record (fields : List (String × Bool × Shape)) : Shape := .object false fields

/-- An object that must not write a field twice. Its fields stand in the order of its list form. -/
def strictRecord (fields : List (String × Bool × Shape)) : Shape := .object true fields

/-- A whole number in a range. -/
def wholeIn? (low high : Int) : Json → Option Json
  | .num (.int n) => if low ≤ n ∧ n ≤ high then some (.num (.int n)) else none
  | _ => none

def int32In? : Json → Option Json := wholeIn? Int32.minValue.toInt Int32.maxValue.toInt

def int64In? : Json → Option Json := wholeIn? Int64.minValue.toInt Int64.maxValue.toInt

mutual

/-- What stands for a required value that is absent. -/
def blank : Shape → Json
  | .anything | .instant => .null
  | .constant s => .str s
  | .text | .variant => .str ""
  | .boolean => .bool false
  | .int32 | .int64 | .numberOrText => .num (.int 0)
  | .list _ => .arr []
  | .map _ => .obj []
  | .object _ fields => .ofEntries (blankFields fields)

def blankFields : List (String × Bool × Shape) → List (String × Json)
  | [] => []
  | (name, needed, s) :: rest =>
    if needed then (name, blank s) :: blankFields rest else blankFields rest

end

/-- Whether null stands for absence in a field of a shape; what can have one value only must have
it. -/
def admitsNull : Shape → Bool
  | .constant _ => false
  | _ => true

mutual

/-- The normal form of a document of a shape; `none` for a document of another. -/
def normal? : Shape → Json → Option Json
  | .anything, v => some v
  | .constant c, .str s => if s = c then some (.str s) else none
  | .text, .str s | .variant, .str s => some (.str s)
  | .boolean, .bool b => some (.bool b)
  | .int32, v => int32In? v
  | .int64, v => int64In? v
  | .instant, .str s => (Instant.parse s).toOption.map fun t => .str t.renderSeconds
  | .numberOrText, .str s => some (.str s)
  | .numberOrText, v => int32In? v
  | .list item, .arr items => (items.mapM fun v => normal? item v).map .arr
  | .map item, .obj fs =>
    (fs.mapM fun e => (normal? item e.2).map fun v => (e.1, v)).map .ofEntries
  | .object _ fields, .obj fs => (normalFields? fields fs).map .ofEntries
  | _, _ => none

/-- The normal form of each field of an object that is there or required. -/
def normalFields? : List (String × Bool × Shape) → List (String × Json) →
    Option (List (String × Json))
  | [], _ => some []
  | (name, needed, s) :: rest, fs => do
    let absent := if needed then [(name, blank s)] else []
    let own ← match Json.lookup name fs with
      | none => some absent
      | some v =>
        if v = .null ∧ s.admitsNull then some absent else (normal? s v).map fun v => [(name, v)]
    let others ← normalFields? rest fs
    some (own ++ others)

end

/-- Whether a document can stand in a field of a shape. -/
def admits (s : Shape) (v : Json) : Bool :=
  (v = .null && s.admitsNull) || (s.normal? v).isSome

mutual

/-- What a written document holds of a shape, with containers nested at most `depth` deep. What is
dropped is not read: its numbers may be beyond all ranges, its texts broken, its containers nested
without end. -/
def select? (depth : Nat) : Shape → Written → Option Json
  | .anything, w => w.value? depth
  | .list item, .arr ws =>
    if depth = 0 then none else (ws.mapM fun w => select? (depth - 1) item w).map .arr
  | .map item, .obj entries =>
    if depth = 0 then none
    else (entries.mapM fun (e : Option String × Written) => do
      let k ← e.1
      let v ← select? (depth - 1) item e.2
      if item.admits v then some (k, v) else none).map .ofEntries
  | .object unique fields, .obj entries =>
    if depth = 0 then none
    else do
      let found ← entries.mapM fun (e : Option String × Written) => do
        let k ← e.1
        let v ← selectField? (depth - 1) unique fields k e.2
        some (v.map fun v => (k, v))
      let known := found.filterMap id
      if unique && !(known.map (·.1)).Nodup then none else some (.ofEntries known)
  | .object true fields, .arr ws =>
    if depth = 0 then none else (selectInOrder? (depth - 1) fields ws).map .ofEntries
  | .variant, .obj [(k, .null)] => if depth = 0 then none else k.map .str
  | _, w => w.value? 0

/-- The value of the field of a name, or nothing when the shape has no such field. Where a later entry
may replace this one, it must be right all the same. -/
def selectField? (depth : Nat) (unique : Bool) :
    List (String × Bool × Shape) → String → Written → Option (Option Json)
  | [], _, _ => some none
  | (name, _, s) :: rest, key, w =>
    if name = key then do
      let v ← select? depth s w
      if unique || s.admits v then some (some v) else none
    else selectField? depth unique rest key w

/-- The fields of an object whose values are written one after the other. Behind the last of them only
fields follow that need not be written. -/
def selectInOrder? (depth : Nat) :
    List (String × Bool × Shape) → List Written → Option (List (String × Json))
  | [], [] => some []
  | [], _ :: _ => none
  | (_, needed, _) :: rest, [] => if needed then none else selectInOrder? depth rest []
  | (name, _, s) :: rest, w :: ws => do
    let v ← select? depth s w
    let others ← selectInOrder? depth rest ws
    some ((name, v) :: others)

end

/-- Reads documents of a shape in their normal form. -/
def decoder (s : Shape) (name : String) : Decoder Json := fun v =>
  match s.normal? v with
  | some v => .ok v
  | none => .error (.wrongType v ("struct " ++ name))

end Shape

end ImageForge
