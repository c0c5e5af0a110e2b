import ImageForge.Resource.Metadata
/-!
Jobs: what is run once to completion in a pod, and what is observed of it. The parts that a builder job
uses have fields of their own; all others are kept as they are.
-/

namespace ImageForge

/-- Fields that are only kept. -/
abbrev OtherFields := List (String × Json)

/-- A variable in the environment of a container. -/
structure EnvVar where
  name : String
  value : Option String
  others : OtherFields := []
  deriving DecidableEq, Repr

/-- A volume that appears as a directory of a container. -/
structure VolumeMount where
  name : String
  mountPath : String
  subPath : Option String := none
  readOnly : Option Bool := none
  others : OtherFields := []
  deriving DecidableEq, Repr

/-- Where the contents of a volume come from; the sources that a builder job has no use for are kept as
the fields of the volume. -/
inductive VolumeSource
  | emptyDir
  | secret (name : String)
  | claim (name : String)
  | other (fields : OtherFields)
  deriving DecidableEq, Repr

structure Volume where
  name : String
  source : VolumeSource
  deriving DecidableEq, Repr

/-- What a container may do. -/
structure SecurityContext where
  privileged : Option Bool := none
  others : OtherFields := []
  deriving DecidableEq, Repr

structure Container where
  name : String
  image : Option String := none
  imagePullPolicy : Option String := none
  securityContext : Option SecurityContext := none
  env : Option (List EnvVar) := none
  volumeMounts : Option (List VolumeMount) := none
  others : OtherFields := []
  deriving DecidableEq, Repr

/-- As whom the containers of a pod run. -/
structure PodSecurityContext where
  runAsUser : Option Int := none
  others : OtherFields := []
  deriving DecidableEq, Repr

structure PodSpec where
  nodeSelector : Option TextMap := none
  restartPolicy : Option String := none
  securityContext : Option PodSecurityContext := none
  containers : List Container := []
  volumes : Option (List Volume) := none
  others : OtherFields := []
  deriving DecidableEq, Repr

structure PodTemplate where
  metadata : Option Metadata := none
  spec : Option PodSpec := none
  deriving DecidableEq, Repr

structure JobSpec where
  backoffLimit : Option Int := none
  template : PodTemplate := {}
  others : OtherFields := []
  deriving DecidableEq, Repr

/-- A condition of a job, as the cluster reports it. -/
structure JobCondition where
  type : String := ""
  status : String := ""
  reason : Option String := none
  message : Option String := none
  lastProbeTime : Option Instant := none
  lastTransitionTime : Option Instant := none
  deriving DecidableEq, Repr

structure JobStatus where
  active : Option Int := none
  succeeded : Option Int := none
  failed : Option Int := none
  ready : Option Int := none
  terminating : Option Int := none
  startTime : Option Instant := none
  completionTime : Option Instant := none
  conditions : Option (List JobCondition) := none
  completedIndexes : Option String := none
  failedIndexes : Option String := none
  others : OtherFields := []
  deriving DecidableEq, Repr

structure Job where
  metadata : Metadata := {}
  spec : Option JobSpec := none
  status : Option JobStatus := none
  deriving DecidableEq, Repr

namespace Job

/-- The condition of a type that holds, if there is one. -/
def trueCondition? (j : Job) (type : String) : Option JobCondition :=
  ((j.status.bind (·.conditions)).getD []).find? fun c => c.type = type ∧ c.status = "True"

/-- A job is complete when its condition `Complete` holds. -/
def isComplete (j : Job) : Bool := (j.trueCondition? "Complete").isSome

/-- The reason and the message of the condition `Failed`, when it holds. -/
def failure? (j : Job) : Option (Option String × Option String) :=
  (j.trueCondition? "Failed").map fun c => (c.reason, c.message)

/-- A job is owned by an object when one of its owner references has the uid of that object. -/
def isOwnedBy (j : Job) (uid : String) : Bool := j.metadata.owners.any (·.uid = uid)

end Job

end ImageForge
