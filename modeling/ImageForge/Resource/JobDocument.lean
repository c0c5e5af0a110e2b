import ImageForge.Resource.Job
import ImageForge.Resource.Shape.Job
/-!
The document of a job, written and read. A document is brought into its normal form first, and then the
parts that have a meaning here are taken out of it.
-/

namespace ImageForge

/-- An object of optional entries and other fields. -/
def Json.ofParts (entries : List (String × Option Json)) (others : OtherFields) : Json :=
  .ofOptional (entries ++ others.map fun f => (f.1, some f.2))

namespace EnvVar

def toJson (e : EnvVar) : Json :=
  .ofParts [("name", some (.str e.name)), ("value", e.value.map .str)] e.others

def ofJson : Decoder EnvVar := fun v => do
  let fs ← Decode.fields "EnvVar" v
  let name ← Decode.optional fs "name" Decode.text
  let value ← Decode.optional fs "value" Decode.text
  return ⟨name.getD "", value, Json.without ["name", "value"] fs⟩

end EnvVar

namespace VolumeMount

def toJson (m : VolumeMount) : Json :=
  .ofParts [
    ("name", some (.str m.name)),
    ("mountPath", some (.str m.mountPath)),
    ("subPath", m.subPath.map .str),
    ("readOnly", m.readOnly.map .bool)] m.others

def ofJson : Decoder VolumeMount := fun v => do
  let fs ← Decode.fields "VolumeMount" v
  let mountPath ← Decode.optional fs "mountPath" Decode.text
  let name ← Decode.optional fs "name" Decode.text
  let readOnly ← Decode.optional fs "readOnly" Decode.boolean
  let subPath ← Decode.optional fs "subPath" Decode.text
  return ⟨name.getD "", mountPath.getD "", subPath, readOnly,
    Json.without ["mountPath", "name", "readOnly", "subPath"] fs⟩

end VolumeMount

namespace VolumeSource

/-- The fields of a volume that say where its contents come from. -/
def fields : VolumeSource → OtherFields
  | .emptyDir => [("emptyDir", .obj [])]
  | .secret name => [("secret", .obj [("secretName", .str name)])]
  | .claim name => [("persistentVolumeClaim", .obj [("claimName", .str name)])]
  | .other fs => fs

def ofFields : OtherFields → VolumeSource
  | [("emptyDir", .obj [])] => .emptyDir
  | [("secret", .obj [("secretName", .str name)])] => .secret name
  | [("persistentVolumeClaim", .obj [("claimName", .str name)])] => .claim name
  | fs => .other fs

/-- What is read is written again. -/
theorem fields_ofFields (fs : OtherFields) : (ofFields fs).fields = fs := by
  unfold ofFields
  split <;> rfl

end VolumeSource

namespace Volume

def toJson (v : Volume) : Json := .ofParts [("name", some (.str v.name))] v.source.fields

def ofJson : Decoder Volume := fun v => do
  let fs ← Decode.fields "Volume" v
  let name ← Decode.optional fs "name" Decode.text
  return ⟨name.getD "", .ofFields (Json.without ["name"] fs)⟩

end Volume

namespace SecurityContext

def toJson (s : SecurityContext) : Json :=
  .ofParts [("privileged", s.privileged.map .bool)] s.others

def ofJson : Decoder SecurityContext := fun v => do
  let fs ← Decode.fields "SecurityContext" v
  let privileged ← Decode.optional fs "privileged" Decode.boolean
  return ⟨privileged, Json.without ["privileged"] fs⟩

end SecurityContext

namespace Container

def fieldNames : List String :=
  ["env", "image", "imagePullPolicy", "name", "securityContext", "volumeMounts"]

def toJson (c : Container) : Json :=
  .ofParts [
    ("name", some (.str c.name)),
    ("image", c.image.map .str),
    ("imagePullPolicy", c.imagePullPolicy.map .str),
    ("securityContext", c.securityContext.map (·.toJson)),
    ("env", c.env.map fun es => .arr (es.map (·.toJson))),
    ("volumeMounts", c.volumeMounts.map fun ms => .arr (ms.map (·.toJson)))] c.others

def ofJson : Decoder Container := fun v => do
  let fs ← Decode.fields "Container" v
  let env ← Decode.optional fs "env" (Decode.list EnvVar.ofJson)
  let image ← Decode.optional fs "image" Decode.text
  let imagePullPolicy ← Decode.optional fs "imagePullPolicy" Decode.text
  let name ← Decode.optional fs "name" Decode.text
  let securityContext ← Decode.optional fs "securityContext" SecurityContext.ofJson
  let volumeMounts ← Decode.optional fs "volumeMounts" (Decode.list VolumeMount.ofJson)
  return ⟨name.getD "", image, imagePullPolicy, securityContext, env, volumeMounts,
    Json.without fieldNames fs⟩

end Container

namespace PodSecurityContext

def toJson (s : PodSecurityContext) : Json :=
  .ofParts [("runAsUser", s.runAsUser.map .ofInt)] s.others

def ofJson : Decoder PodSecurityContext := fun v => do
  let fs ← Decode.fields "PodSecurityContext" v
  let runAsUser ← Decode.optional fs "runAsUser" Decode.int64
  return ⟨runAsUser, Json.without ["runAsUser"] fs⟩

end PodSecurityContext

namespace PodSpec

def fieldNames : List String :=
  ["containers", "nodeSelector", "restartPolicy", "securityContext", "volumes"]

def toJson (p : PodSpec) : Json :=
  .ofParts [
    ("nodeSelector", p.nodeSelector.map TextMap.toJson),
    ("restartPolicy", p.restartPolicy.map .str),
    ("securityContext", p.securityContext.map (·.toJson)),
    ("containers", some (.arr (p.containers.map (·.toJson)))),
    ("volumes", p.volumes.map fun vs => .arr (vs.map (·.toJson)))] p.others

def ofJson : Decoder PodSpec := fun v => do
  let fs ← Decode.fields "PodSpec" v
  let containers ← Decode.optional fs "containers" (Decode.list Container.ofJson)
  let nodeSelector ← Decode.optional fs "nodeSelector" TextMap.ofJson
  let restartPolicy ← Decode.optional fs "restartPolicy" Decode.text
  let securityContext ← Decode.optional fs "securityContext" PodSecurityContext.ofJson
  let volumes ← Decode.optional fs "volumes" (Decode.list Volume.ofJson)
  return ⟨nodeSelector, restartPolicy, securityContext, containers.getD [], volumes,
    Json.without fieldNames fs⟩

end PodSpec

namespace PodTemplate

def toJson (t : PodTemplate) : Json :=
  .ofOptional [("metadata", t.metadata.map (·.toJson)), ("spec", t.spec.map (·.toJson))]

def ofJson : Decoder PodTemplate := fun v => do
  let fs ← Decode.fields "PodTemplateSpec" v
  let metadata ← Decode.optional fs "metadata" Metadata.ofJson
  let spec ← Decode.optional fs "spec" PodSpec.ofJson
  return ⟨metadata, spec⟩

end PodTemplate

namespace JobSpec

def toJson (s : JobSpec) : Json :=
  .ofParts [
    ("backoffLimit", s.backoffLimit.map .ofInt), ("template", some s.template.toJson)] s.others

def ofJson : Decoder JobSpec := fun v => do
  let fs ← Decode.fields "JobSpec" v
  let backoffLimit ← Decode.optional fs "backoffLimit" Decode.int32
  let template ← Decode.optional fs "template" PodTemplate.ofJson
  return ⟨backoffLimit, template.getD {}, Json.without ["backoffLimit", "template"] fs⟩

end JobSpec

/-- A time inside a job is written without its fraction. -/
def Instant.toJobJson (t : Instant) : Json := .str t.renderSeconds

namespace JobCondition

def toJson (c : JobCondition) : Json :=
  .ofOptional [
    ("type", some (.str c.type)),
    ("status", some (.str c.status)),
    ("reason", c.reason.map .str),
    ("message", c.message.map .str),
    ("lastProbeTime", c.lastProbeTime.map (·.toJobJson)),
    ("lastTransitionTime", c.lastTransitionTime.map (·.toJobJson))]

def ofJson : Decoder JobCondition := fun v => do
  let fs ← Decode.fields "JobCondition" v
  let lastProbeTime ← Decode.optional fs "lastProbeTime" Decode.instant
  let lastTransitionTime ← Decode.optional fs "lastTransitionTime" Decode.instant
  let message ← Decode.optional fs "message" Decode.text
  let reason ← Decode.optional fs "reason" Decode.text
  let status ← Decode.optional fs "status" Decode.text
  let type ← Decode.optional fs "type" Decode.text
  return ⟨type.getD "", status.getD "", reason, message, lastProbeTime, lastTransitionTime⟩

end JobCondition

namespace JobStatus

def fieldNames : List String :=
  ["active", "completedIndexes", "completionTime", "conditions", "failed", "failedIndexes", "ready",
    "startTime", "succeeded", "terminating"]

def toJson (s : JobStatus) : Json :=
  .ofParts [
    ("active", s.active.map .ofInt),
    ("succeeded", s.succeeded.map .ofInt),
    ("failed", s.failed.map .ofInt),
    ("ready", s.ready.map .ofInt),
    ("terminating", s.terminating.map .ofInt),
    ("startTime", s.startTime.map (·.toJobJson)),
    ("completionTime", s.completionTime.map (·.toJobJson)),
    ("conditions", s.conditions.map fun cs => .arr (cs.map (·.toJson))),
    ("completedIndexes", s.completedIndexes.map .str),
    ("failedIndexes", s.failedIndexes.map .str)] s.others

def ofJson : Decoder JobStatus := fun v => do
  let fs ← Decode.fields "JobStatus" (← Shape.jobStatus.decoder "JobStatus" v)
  let active ← Decode.optional fs "active" Decode.int32
  let completedIndexes ← Decode.optional fs "completedIndexes" Decode.text
  let completionTime ← Decode.optional fs "completionTime" Decode.instant
  let conditions ← Decode.optional fs "conditions" (Decode.list JobCondition.ofJson)
  let failed ← Decode.optional fs "failed" Decode.int32
  let failedIndexes ← Decode.optional fs "failedIndexes" Decode.text
  let ready ← Decode.optional fs "ready" Decode.int32
  let startTime ← Decode.optional fs "startTime" Decode.instant
  let succeeded ← Decode.optional fs "succeeded" Decode.int32
  let terminating ← Decode.optional fs "terminating" Decode.int32
  return ⟨active, succeeded, failed, ready, terminating, startTime, completionTime, conditions,
    completedIndexes, failedIndexes, Json.without fieldNames fs⟩

end JobStatus

namespace Job

def apiVersion : String := "batch/v1"
def kind : String := "Job"
def plural : String := "jobs"

def toJson (j : Job) : Json :=
  .ofOptional [
    ("apiVersion", some (.str apiVersion)),
    ("kind", some (.str kind)),
    ("metadata", some j.metadata.toJson),
    ("spec", j.spec.map (·.toJson)),
    ("status", j.status.map (·.toJson))]

/-- Reads a job; when the document says what it is, that must be a job. -/
def ofJson : Decoder Job := fun v => do
  let fs ← Decode.fields "Job" (← Shape.job.decoder "Job" v)
  let metadata ← Decode.optional fs "metadata" Metadata.ofJson
  let spec ← Decode.optional fs "spec" JobSpec.ofJson
  let status ← Decode.optional fs "status" JobStatus.ofJson
  return ⟨metadata.getD {}, spec, status⟩

end Job

end ImageForge
