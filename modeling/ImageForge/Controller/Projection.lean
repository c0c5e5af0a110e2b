import ImageForge.Controller.JobState
import ImageForge.Controller.Output
/-!
What the status of an image build says, given what is known of its builder job.
-/

namespace ImageForge.Controller

def reasonJobRunning : String := "JobRunning"
def reasonJobSucceeded : String := "JobSucceeded"
def reasonJobNotReady : String := "BuilderJobNotReady"
def reasonJobRejected : String := "JobRejected"
def reasonNotSupported : String := "NotSupported"
def reasonNotRequested : String := "NotRequested"
def reasonInvalidSpec : String := "InvalidSpec"
def reasonBaseImagePulled : String := "BaseImagePulled"
def reasonProvisioned : String := "Provisioned"
def reasonArtifactsWritten : String := "ArtifactsWritten"

end ImageForge.Controller

namespace ImageForge.ImageBuildStatus

open Controller

/-- Records an observation. -/
def observe (s : ImageBuildStatus) (type : ConditionType) (value : ConditionStatus)
    (reason message : String) (now : Instant) : ImageBuildStatus :=
  { s with conditions := Conditions.observe type value reason message now s.conditions }

/-- Moves the phase. -/
def advance (s : ImageBuildStatus) (next : Phase) : ImageBuildStatus :=
  { s with phase := s.phase.advance next }

/-- The status at the start of a reconciliation: all conditions are there, and the generation is the
current one. -/
def refresh (s : ImageBuildStatus) (generation : Option Int) (now : Instant) : ImageBuildStatus :=
  { s with
    conditions := Conditions.initializeAll s.conditions ConditionType.all now
    observedGeneration := generation }

/-- The cluster refused the builder job. -/
def jobRejected (s : ImageBuildStatus) (why : String) (now : Instant) : ImageBuildStatus :=
  (s.observe .builderJobReady .false reasonJobRejected why now).advance .failed

/-- No builder job could be made; the section of the spec that is to blame is marked as well. -/
def jobNotConstructed (s : ImageBuildStatus) (e : JobError) (now : Instant) : ImageBuildStatus :=
  let s := s.observe .builderJobReady .false reasonJobNotReady e.message now
  let s := match e.affectedCondition with
    | some type =>
      let reason := if e.isUnsupported then reasonNotSupported else reasonInvalidSpec
      s.observe type .false reason e.message now
    | none => s
  s.advance .failed

/-- The builder job is running. -/
def jobRunning (s : ImageBuildStatus) (jobName : String) (start : Option Instant) (now : Instant) :
    ImageBuildStatus :=
  let s := { s with startTime := (s.startTime.or start).or (some now) }
  (s.observe .builderJobReady .false reasonJobRunning
    ("Builder job " ++ jobName ++ " is running") now).advance .building

/-- The provisioner of a build that succeeded has run, if there was one. -/
def provisionerObserved (s : ImageBuildStatus) (spec : ImageBuildSpec) (now : Instant) :
    ImageBuildStatus :=
  let chosen := spec.provisioner.bind fun p => match p.variant with
    | .ok v => v
    | .error _ => none
  match chosen with
  | some p =>
    s.observe .provisionerReady .true reasonProvisioned (p.kind ++ " provisioner completed") now
  | none =>
    s.observe .provisionerReady .true reasonNotRequested "No provisioner requested" now

/-- Publishing is not done, so a build is complete only when none is asked for. -/
def publishObserved (s : ImageBuildStatus) (spec : ImageBuildSpec) (now : Instant) :
    ImageBuildStatus :=
  match spec.publish.map PublishSpec.target with
  | none =>
    (s.observe .publishReady .true reasonNotRequested "No publish target requested" now).advance
      .succeeded
  | some (.ok target) =>
    (s.observe .publishReady .false reasonNotSupported
      ("publishing to " ++ target.kind ++ " is not supported") now).advance .publishing
  | some (.error e) =>
    (s.observe .publishReady .false reasonInvalidSpec e.message now).advance .publishing

/-- The builder job has succeeded. -/
def jobSucceeded (s : ImageBuildStatus) (b : ImageBuild) (jobName : String)
    (start completion : Option Instant) (now : Instant) : ImageBuildStatus :=
  let url := match Controller.outputUrl b with
    | .ok url => url
    | .error _ => none
  let s := { s with
    startTime := (s.startTime.or start).or (some now)
    completionTime := (s.completionTime.or completion).or (some now)
    outputUrl := url }
  let s := s.observe .baseImageReady .true reasonBaseImagePulled b.spec.baseImage now
  let s := s.provisionerObserved b.spec now
  let s := s.observe .builderJobReady .true reasonJobSucceeded
    ("Builder job " ++ jobName ++ " succeeded") now
  let s := s.observe .outputReady .true reasonArtifactsWritten (url.getD "") now
  s.publishObserved b.spec now

/-- The builder job has failed. -/
def jobFailed (s : ImageBuildStatus) (reason message : String) (now : Instant) :
    ImageBuildStatus :=
  let s := { s with completionTime := s.completionTime.or (some now) }
  (s.observe .builderJobReady .false reason message now).advance .failed

/-- The status after a look at the builder job. -/
def jobObserved (s : ImageBuildStatus) (b : ImageBuild) (jobName : String) (state : JobState)
    (now : Instant) : ImageBuildStatus :=
  let s := { s with builderJobName := some jobName }
  match state with
  | .running start => s.jobRunning jobName start now
  | .succeeded start completion => s.jobSucceeded b jobName start completion now
  | .failed reason message => s.jobFailed reason message now

end ImageForge.ImageBuildStatus
