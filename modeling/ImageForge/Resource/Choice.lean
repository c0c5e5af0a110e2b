import ImageForge.Text.Quoted
/-!
One-of groups: sections of which at most one, or exactly one, may be given.
-/

namespace ImageForge

/-- What can be wrong with a group or with a value out of a fixed set. -/
inductive SpecError
  | missingVariant (field : String) (candidates : List String)
  | conflictingVariants (field : String) (found : List String)
  | unknownValue (field : String) (value : String)
  deriving DecidableEq, Repr

namespace SpecError

def message : SpecError → String
  | .missingVariant field candidates =>
    field ++ ": exactly one of " ++ String.intercalate ", " candidates ++ " must be specified"
  | .conflictingVariants field found =>
    field ++ ": only one variant may be specified, found " ++ String.intercalate ", " found
  | .unknownValue field value => field ++ ": unsupported value " ++ Text.quote value

end SpecError

namespace Choice

variable {α : Type}

/-- The candidates that are given, with their names. -/
def given (candidates : List (String × Option α)) : List (String × α) :=
  candidates.filterMap fun c => c.2.map (c.1, ·)

/-- The one candidate that is given, if any; more than one conflict. -/
def atMostOne (field : String) (candidates : List (String × Option α)) :
    Except SpecError (Option α) :=
  match given candidates with
  | [] => .ok none
  | [(_, v)] => .ok (some v)
  | found => .error (.conflictingVariants field (found.map (·.1)))

/-- The one candidate that is given; none and more than one are errors. -/
def exactlyOne (field : String) (candidates : List (String × Option α)) : Except SpecError α :=
  match atMostOne field candidates with
  | .ok (some v) => .ok v
  | .ok none => .error (.missingVariant field (candidates.map (·.1)))
  | .error e => .error e

/-- The value of a name in a fixed set. -/
def named (field : String) (values : List α) (name : α → String) (s : String) :
    Except SpecError α :=
  match values.find? (name · = s) with
  | some v => .ok v
  | none => .error (.unknownValue field s)

end Choice

end ImageForge
