import ImageForge.Cluster.Error
import ImageForge.Json.Reader
import ImageForge.Resource.ImageBuild
import ImageForge.Resource.JobDocument
import ImageForge.Resource.Shape.ImageBuild
import ImageForge.Resource.Shape.Job
/-!
The bodies of responses. Of a body only the parts that matter are read; what else it holds need not even
have a value.
-/

namespace ImageForge.Cluster

/-- How a body is read: its parts that matter, and the value they are. -/
structure Body (α : Type) where
  shape : Shape
  decode : Decoder α

/-- The value that the text of a body holds. -/
def Body.read? {α : Type} (r : Body α) (body : String) : Option α := do
  let v ← r.shape.select? Json.maxDepth (← Written.parse? body)
  (r.decode v).toOption

namespace Body

open Shape (always maybe maybeEach strictRecord)

def imageBuild : Body ImageBuild := ⟨Shape.imageBuild, ImageBuild.ofJson⟩

def job : Body Job := ⟨Shape.job, Job.ofJson⟩

/-- An error object. -/
def errorObject : Decoder ApiStatus := fun v => do
  let fs ← Decode.fields "ErrorResponse" v
  let code ← Decode.field? fs "code" (Decode.integerIn 0 (UInt16.size - 1) "u16")
  let message ← Decode.field? fs "message" Decode.text
  let reason ← Decode.field? fs "reason" Decode.text
  let status ← Decode.field? fs "status" Decode.text
  let _ ← Decode.required "status" status
  let code ← Decode.required "code" code
  return ⟨code.toNat, reason.getD "", message.getD ""⟩

/-- The body of an error. -/
def error : Body ApiStatus :=
  ⟨strictRecord [always "status" .text, maybe "message" .text, maybe "reason" .text,
    always "code" .int32], errorObject⟩

/-- One cause in the details of a report. -/
def reportCause : Decoder Unit := fun v => do
  let fs ← Decode.fields "StatusCause" v
  let _ ← Decode.field? fs "field" Decode.text
  let _ ← Decode.field? fs "message" Decode.text
  let _ ← Decode.field? fs "reason" Decode.text

/-- The details of a report. -/
def reportDetails : Decoder Unit := fun v => do
  let fs ← Decode.fields "StatusDetails" v
  let _ ← Decode.field? fs "causes" (Decode.list reportCause)
  let _ ← Decode.field? fs "group" Decode.text
  let _ ← Decode.field? fs "kind" Decode.text
  let _ ← Decode.field? fs "name" Decode.text
  let _ ← Decode.field? fs "retryAfterSeconds" (Decode.integerIn 0 (UInt32.size - 1) "u32")
  let _ ← Decode.field? fs "uid" Decode.text

/-- A report on what the server has done. -/
def report : Decoder Unit := fun v => do
  let fs ← Decode.fields "Status" v
  let _ ← Decode.field? fs "code" (Decode.integerIn 0 (UInt16.size - 1) "u16")
  let _ ← Decode.optional fs "details" reportDetails
  let _ ← Decode.field? fs "message" Decode.text
  let _ ← Decode.field? fs "reason" Decode.text
  let _ ← Decode.optional fs "status" (Decode.oneOf ["Success", "Failure"] id)

def statusReport : Body Unit where
  shape := strictRecord [
    maybe "status" .variant, maybe "code" .int32, maybe "message" .text, maybe "reason" .text,
    maybe "details" (strictRecord (
      maybeEach ["name", "group", "kind", "uid"] .text ++
      [maybe "causes" (.list (strictRecord (maybeEach ["reason", "message", "field"] .text))),
        maybe "retryAfterSeconds" .int64]))]
  decode := report

/-- The result of a deletion: a report, or the object that is being deleted. Which of them the body
holds is a matter of its value, so the whole body must have one. -/
def deletion? (body : String) : Option Unit := do
  let v ← Json.parse? body
  if v.get? "kind" = some (.str "Status") then statusReport.read? body
  else (job.read? body).map fun _ => ()

end Body

end ImageForge.Cluster
