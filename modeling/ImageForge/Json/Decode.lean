import ImageForge.Json.Writer
import ImageForge.Text.Quoted
import ImageForge.Time.Reader
/-!
Reading typed values from documents. A reader either answers a value or the first thing that is wrong;
the fields of an object are read in the order of their keys, and a field that is required and absent
is reported after all fields that are present.
-/

namespace ImageForge

/-- Why a document is not a value of some type. -/
inductive DecodeError
  | missingField (name : String)
  | unknownVariant (found : String) (known : List String)
  | wrongType (found : Json) (want : String)
  | integerTooLarge (found : Int) (want : String)
  | badTime (reason : Time.TimeError)
  | invalidLength (found : Nat) (want : String)
  | notSingleKey
  deriving Repr

namespace DecodeError

def ticked (s : String) : String := "`" ++ s ++ "`"

/-- The variants that would have been known: `a or b` of two, else a list. -/
def knownText : List String → String
  | [] => "there are no variants"
  | [a] => "expected " ++ ticked a
  | [a, b] => "expected " ++ ticked a ++ " or " ++ ticked b
  | vs => "expected one of " ++ String.intercalate ", " (vs.map ticked)

/-- What a document is, in one phrase. -/
def describe : Json → String
  | .null => "null"
  | .bool b => "boolean " ++ ticked (if b then "true" else "false")
  | .num (.int n) => "integer " ++ ticked (String.ofList (Json.intChars n))
  | .num (.real b) => "floating point " ++ ticked (String.ofList b.documentChars)
  | .str s => "string " ++ Text.quote s
  | .arr _ => "sequence"
  | .obj _ => "map"

def message : DecodeError → String
  | .missingField name => "missing field " ++ ticked name
  | .unknownVariant found known => "unknown variant " ++ ticked found ++ ", " ++ knownText known
  | .wrongType found want => "invalid type: " ++ describe found ++ ", expected " ++ want
  | .integerTooLarge found want =>
    "invalid value: integer " ++ ticked (String.ofList (Json.intChars found)) ++ ", expected " ++ want
  | .badTime reason => reason.message
  | .invalidLength found want => "invalid length " ++ toString found ++ ", expected " ++ want
  | .notSingleKey => "invalid value: map, expected map with a single key"

end DecodeError

/-- A reader of values of type `α`. -/
abbrev Decoder (α : Type) := Json → Except DecodeError α

namespace Decode

def text : Decoder String
  | .str s => .ok s
  | v => .error (.wrongType v "a string")

def boolean : Decoder Bool
  | .bool b => .ok b
  | v => .error (.wrongType v "a boolean")

/-- An integer from `low` to `high`. -/
def integerIn (low high : Int) (want : String) : Decoder Int
  | .num (.int n) => if low ≤ n ∧ n ≤ high then .ok n else .error (.integerTooLarge n want)
  | v => .error (.wrongType v want)

/-- A signed integer of 64 bits. -/
def int64 : Decoder Int := integerIn Int64.minValue.toInt Int64.maxValue.toInt "i64"

/-- A signed integer of 32 bits. -/
def int32 : Decoder Int := integerIn Int32.minValue.toInt Int32.maxValue.toInt "i32"

def instant : Decoder Instant
  | .str s => match Instant.parse s with
    | .ok t => .ok t
    | .error e => .error (.badTime e)
  | v => .error (.wrongType v "an RFC 3339 formatted date and time string")

def unit : Decoder Unit
  | .null => .ok ()
  | v => .error (.wrongType v "unit")

/-- The value of a name. -/
def named {α : Type} (values : List α) (name : α → String) (s : String) : Except DecodeError α :=
  match values.find? (name · = s) with
  | some v => .ok v
  | none => .error (.unknownVariant s (values.map name))

/-- One of some values, each with a name of its own: the name, or an object with nothing in it but null
under the name. -/
def oneOf {α : Type} (values : List α) (name : α → String) : Decoder α
  | .str s => named values name s
  | .obj [(s, v)] => do
    let a ← named values name s
    unit v
    return a
  | .obj _ => .error .notSingleKey
  | v => .error (.wrongType v "string or map")

def list {α : Type} (item : Decoder α) : Decoder (List α)
  | .arr items => items.mapM item
  | v => .error (.wrongType v "a sequence")

/-- Null, or a value. -/
def nullable {α : Type} (item : Decoder α) : Decoder (Option α)
  | .null => .ok none
  | v => (item v).map some

/-- The fields of an object that is to be read as a value of the named type. -/
def fields (type : String) : Decoder (List (String × Json))
  | .obj fs => .ok fs
  | v => .error (.wrongType v ("struct " ++ type))

/-- A field of a record: whether it must be there, and which documents can stand in it. -/
structure Part where
  name : String
  isNeeded : Bool
  check : Decoder Unit

namespace Part

variable {α : Type}

def needed (name : String) (item : Decoder α) : Part :=
  ⟨name, true, fun v => (item v).map fun _ => ()⟩

/-- A field that has a value of its own where it is left out. -/
def defaulted (name : String) (item : Decoder α) : Part :=
  ⟨name, false, fun v => (item v).map fun _ => ()⟩

/-- A field where null and absence are the same. -/
def optional (name : String) (item : Decoder α) : Part := .defaulted name (nullable item)

end Part

/-- The fields of a record that is written as the list of its parts, of which `start` are read already.
Only parts that need not be there may be left out at its end. -/
def inOrder (want : String) (start : Nat) :
    List Part → List Json → Except DecodeError (List (String × Json))
  | [], [] => .ok []
  | [], v :: items => .error (.invalidLength (start + (v :: items).length) "fewer elements in array")
  | part :: parts, [] =>
    if part.isNeeded then .error (.invalidLength start want)
    else inOrder want (start + 1) parts []
  | part :: parts, v :: items => do
    part.check v
    let rest ← inOrder want (start + 1) parts items
    return (part.name, v) :: rest

/-- The fields of a record: an object, or the list of the parts. -/
def record (type : String) (parts : List Part) : Decoder (List (String × Json))
  | .obj fs => .ok fs
  | .arr items =>
    inOrder ("struct " ++ type ++ " with " ++ toString parts.length ++ " elements") 0 parts items
  | v => .error (.wrongType v ("struct " ++ type))

/-- The field of a name when there is one. -/
def field? {α : Type} (fs : List (String × Json)) (name : String) (item : Decoder α) :
    Except DecodeError (Option α) :=
  match Json.lookup name fs with
  | none => .ok none
  | some v => (item v).map some

/-- The field of a name, where null and absence are the same. -/
def optional {α : Type} (fs : List (String × Json)) (name : String) (item : Decoder α) :
    Except DecodeError (Option α) :=
  match Json.lookup name fs with
  | none => .ok none
  | some v => nullable item v

/-- A value that must have been there. -/
def required {α : Type} (name : String) : Option α → Except DecodeError α
  | some v => .ok v
  | none => .error (.missingField name)

end Decode

end ImageForge
