import ImageForge.Resource.Condition
/-!
The observed state of an image build.
-/

namespace ImageForge

/-- How far a build has come. -/
inductive Phase
  | pending
  | building
  | publishing
  | succeeded
  | failed
  deriving DecidableEq, Repr, Inhabited

namespace Phase

def all : List Phase := [.pending, .building, .publishing, .succeeded, .failed]

def name : Phase → String
  | .pending => "Pending"
  | .building => "Building"
  | .publishing => "Publishing"
  | .succeeded => "Succeeded"
  | .failed => "Failed"

/-- The phases that are never left. -/
def isTerminal (p : Phase) : Bool := p = .succeeded ∨ p = .failed

/-- The place of a phase in the order of a build. -/
def rank : Phase → Nat
  | .pending => 0
  | .building => 1
  | .publishing => 2
  | .succeeded | .failed => 3

/-- The phase after an observation. A terminal phase stays, and any other never moves back; a
failure ranks highest, so it is reached from every phase that is not terminal. -/
def advance (p next : Phase) : Phase :=
  if p.isTerminal then p else if p.rank ≤ next.rank then next else p

def toJson (p : Phase) : Json := .str p.name
def ofJson : Decoder Phase := Decode.oneOf all name

theorem advance_of_isTerminal {p : Phase} (h : p.isTerminal) (next : Phase) :
    p.advance next = p := by simp [advance, h]

theorem rank_le_advance (p next : Phase) : p.rank ≤ (p.advance next).rank := by
  cases p <;> cases next <;> decide

end Phase

/-- The observed state of an image build. -/
structure ImageBuildStatus where
  phase : Phase := .pending
  conditions : List Condition := []
  startTime : Option Instant := none
  completionTime : Option Instant := none
  builderJobName : Option String := none
  outputUrl : Option String := none
  observedGeneration : Option Int := none
  deriving DecidableEq, Repr, Inhabited

namespace ImageBuildStatus

def condition? (s : ImageBuildStatus) (type : ConditionType) : Option Condition :=
  Conditions.find? s.conditions type

def toJson (s : ImageBuildStatus) : Json :=
  .ofOptional [
    ("phase", some s.phase.toJson),
    ("conditions",
      if s.conditions.isEmpty then none else some (.arr (s.conditions.map (·.toJson)))),
    ("startTime", s.startTime.map (.str ·.render)),
    ("completionTime", s.completionTime.map (.str ·.render)),
    ("builderJobName", s.builderJobName.map .str),
    ("outputURL", s.outputUrl.map .str),
    ("observedGeneration", s.observedGeneration.map .ofInt)]

def parts : List Decode.Part := [
  .defaulted "phase" Phase.ofJson, .defaulted "conditions" (Decode.list Condition.ofJson),
  .optional "startTime" Decode.instant, .optional "completionTime" Decode.instant,
  .optional "builderJobName" Decode.text, .optional "outputURL" Decode.text,
  .optional "observedGeneration" Decode.int64]

def ofFields (fs : List (String × Json)) : Except DecodeError ImageBuildStatus := do
  let builderJobName ← Decode.optional fs "builderJobName" Decode.text
  let completionTime ← Decode.optional fs "completionTime" Decode.instant
  let conditions ← Decode.field? fs "conditions" (Decode.list Condition.ofJson)
  let observedGeneration ← Decode.optional fs "observedGeneration" Decode.int64
  let outputUrl ← Decode.optional fs "outputURL" Decode.text
  let phase ← Decode.field? fs "phase" Phase.ofJson
  let startTime ← Decode.optional fs "startTime" Decode.instant
  return {
    phase := phase.getD .pending
    conditions := conditions.getD []
    startTime, completionTime, builderJobName, outputUrl, observedGeneration }

def ofJson : Decoder ImageBuildStatus := fun v => do
  ofFields (← Decode.record "ImageBuildStatus" parts v)

/-- Reads the status of a stored object. What a shape has selected of the body of a response is read there,
and in that every record is an object, however it was written. -/
def ofObject : Decoder ImageBuildStatus := fun v => do
  ofFields (← Decode.fields "ImageBuildStatus" v)

end ImageBuildStatus

end ImageForge
