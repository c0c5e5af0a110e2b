import ImageForge.Json.Decode
/-!
Readiness conditions: a list with one record for each observed aspect of a build. Records are added
and updated, never removed.
-/

namespace ImageForge

/-- The aspects of a build that have a condition. -/
inductive ConditionType
  | baseImageReady
  | builderJobReady
  | provisionerReady
  | outputReady
  | publishReady
  deriving DecidableEq, Repr

namespace ConditionType

/-- The conditions of an image build, in the order in which they are first recorded. -/
def all : List ConditionType :=
  [.baseImageReady, .builderJobReady, .provisionerReady, .outputReady, .publishReady]

def name : ConditionType → String
  | .baseImageReady => "BaseImageReady"
  | .builderJobReady => "BuilderJobReady"
  | .provisionerReady => "ProvisionerReady"
  | .outputReady => "OutputReady"
  | .publishReady => "PublishReady"

def toJson (t : ConditionType) : Json := .str t.name
def ofJson : Decoder ConditionType := Decode.oneOf all name

end ConditionType

/-- The value of a condition. -/
inductive ConditionStatus
  | true
  | false
  | unknown
  deriving DecidableEq, Repr

namespace ConditionStatus

def all : List ConditionStatus := [.true, .false, .unknown]

def name : ConditionStatus → String
  | .true => "True"
  | .false => "False"
  | .unknown => "Unknown"

def toJson (s : ConditionStatus) : Json := .str s.name
def ofJson : Decoder ConditionStatus := Decode.oneOf all name

end ConditionStatus

/-- One observation: its value, why, and since when it has that value. -/
structure Condition where
  type : ConditionType
  status : ConditionStatus
  reason : String
  message : String
  lastTransitionTime : Instant
  deriving DecidableEq, Repr

namespace Condition

/-- The reason of a record that nothing has been observed for. -/
def initializing : String := "Initializing"

/-- The record of a condition before anything has been observed. -/
def initial (type : ConditionType) (now : Instant) : Condition :=
  ⟨type, .unknown, initializing, "Unknown", now⟩

/-- The record after an observation. The time moves only when the value changes. -/
def observe (c : Condition) (status : ConditionStatus) (reason message : String) (now : Instant) :
    Condition :=
  { c with
    status, reason, message
    lastTransitionTime := if c.status = status then c.lastTransitionTime else now }

def toJson (c : Condition) : Json :=
  .ofEntries [
    ("type", c.type.toJson),
    ("status", c.status.toJson),
    ("reason", .str c.reason),
    ("message", .str c.message),
    ("lastTransitionTime", .str c.lastTransitionTime.render)]

def parts : List Decode.Part := [
  .needed "type" ConditionType.ofJson, .needed "status" ConditionStatus.ofJson,
  .needed "reason" Decode.text, .defaulted "message" Decode.text,
  .needed "lastTransitionTime" Decode.instant]

def ofJson : Decoder Condition := fun v => do
  let fs ← Decode.record "Condition" parts v
  let time ← Decode.field? fs "lastTransitionTime" Decode.instant
  let message ← Decode.field? fs "message" Decode.text
  let reason ← Decode.field? fs "reason" Decode.text
  let status ← Decode.field? fs "status" ConditionStatus.ofJson
  let type ← Decode.field? fs "type" ConditionType.ofJson
  let type ← Decode.required "type" type
  let status ← Decode.required "status" status
  let reason ← Decode.required "reason" reason
  let time ← Decode.required "lastTransitionTime" time
  return ⟨type, status, reason, message.getD "", time⟩

end Condition

namespace Conditions

/-- The record of a type; of several the first counts. -/
def find? (cs : List Condition) (type : ConditionType) : Option Condition :=
  cs.find? (·.type = type)

/-- Appends the initial record of a type unless the list has one already. -/
def initializeOne (now : Instant) (cs : List Condition) (type : ConditionType) : List Condition :=
  match find? cs type with
  | some _ => cs
  | none => cs ++ [.initial type now]

/-- Appends the initial records of the types that have none. -/
def initializeAll (cs : List Condition) (types : List ConditionType) (now : Instant) :
    List Condition :=
  types.foldl (initializeOne now) cs

/-- Records an observation in the first record of its type, or in a new one at the end. -/
def observe (type : ConditionType) (status : ConditionStatus) (reason message : String)
    (now : Instant) : List Condition → List Condition
  | [] => [⟨type, status, reason, message, now⟩]
  | c :: cs =>
    if c.type = type then c.observe status reason message now :: cs
    else c :: observe type status reason message now cs

end Conditions

end ImageForge
