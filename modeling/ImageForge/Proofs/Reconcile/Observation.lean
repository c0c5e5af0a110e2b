import ImageForge.Proofs.Reconcile.Aging
import ImageForge.Proofs.Resource.Reports

/-! What a look at the builder job makes of a status. A second look at the same job adds nothing. -/
namespace ImageForge

namespace Controller.JobState

def values (spec : ImageBuildSpec) : JobState → List (ConditionType × ConditionStatus)
  | .running _ | .failed _ _ => [(.builderJobReady, .false)]
  | .succeeded _ _ =>
    [(.baseImageReady, .true), (.provisionerReady, .true), (.builderJobReady, .true),
      (.outputReady, .true), (.publishReady, if spec.publish.isSome then .false else .true)]

def phase (spec : ImageBuildSpec) : JobState → Phase
  | .running _ => .building
  | .succeeded _ _ => if spec.publish.isSome then .publishing else .succeeded
  | .failed _ _ => .failed

def startTime (old : Option Instant) (now : Instant) : JobState → Option Instant
  | .running start | .succeeded start _ => (old.or start).or (some now)
  | .failed _ _ => old

def completionTime (old : Option Instant) (now : Instant) : JobState → Option Instant
  | .running _ => old
  | .succeeded _ completion => (old.or completion).or (some now)
  | .failed _ _ => old.or (some now)

def outputUrl (b : ImageBuild) (old : Option String) : JobState → Option String
  | .running _ | .failed _ _ => old
  | .succeeded _ _ => match Controller.outputUrl b with
    | .ok url => url
    | .error _ => none

variable {state : JobState} {old : Option Instant} {now now' : Instant}

theorem nodup_values (spec : ImageBuildSpec) (state : JobState) :
    ((state.values spec).map (·.1)).Nodup := by
  cases state <;> simp [values]

theorem or_now_again (old time : Option Instant) (now now' : Instant) :
    (((old.or time).or (some now)).or time).or (some now') = (old.or time).or (some now) := by
  cases old <;> cases time <;> rfl

theorem startTime_again :
    state.startTime (state.startTime old now) now' = state.startTime old now := by
  cases state with
  | running start | succeeded start _ => exact or_now_again old start now now'
  | failed _ _ => rfl

theorem completionTime_again :
    state.completionTime (state.completionTime old now) now' = state.completionTime old now := by
  cases state with
  | running _ => rfl
  | succeeded _ completion => exact or_now_again old completion now now'
  | failed _ _ => cases old <;> rfl

theorem outputUrl_again (b : ImageBuild) (old : Option String) :
    state.outputUrl b (state.outputUrl b old) = state.outputUrl b old := by
  cases state <;> rfl

end Controller.JobState

namespace Controller.JobError

/-- The conditions that are not met where no job could be made. -/
def blamed (e : JobError) : List ConditionType := .builderJobReady :: e.affectedCondition.toList

/-- What is told where no job could be made, of the job and of the section of the spec that is to
blame. -/
def reports (e : JobError) : List Report :=
  ⟨.builderJobReady, .false, reasonJobNotReady, e.message⟩ ::
    (e.affectedCondition.map fun type => ⟨type, .false,
      if e.isUnsupported then reasonNotSupported else reasonInvalidSpec, e.message⟩).toList

theorem nodup_blamed (e : JobError) : e.blamed.Nodup := by
  cases ha : e.affectedCondition with
  | none => simp [blamed, ha]
  | some type => simpa [blamed, ha] using (affectedCondition_ne ha).symm

theorem values_reports (e : JobError) :
    e.reports.map (fun r => (r.type, r.value)) = e.blamed.map (·, .false) := by
  simp only [reports, blamed]
  cases e.affectedCondition <;> rfl

theorem nodup_reports (e : JobError) : (e.reports.map (·.type)).Nodup :=
  Report.nodup_of_values e.values_reports (by simpa [Function.comp_def] using e.nodup_blamed)

end Controller.JobError

theorem Phase.advance_again (p next : Phase) : (p.advance next).advance next = p.advance next := by
  cases p <;> cases next <;> rfl

theorem Phase.advance_of_unfinished {p next : Phase} (h : ¬ p.isTerminal) (hn : next.isTerminal) :
    p.advance next = next := by
  revert h hn
  cases p <;> cases next <;> decide

theorem Phase.advance_unfinished {p next : Phase} (h : ¬ p.isTerminal) (hn : ¬ next.isTerminal) :
    ¬ (p.advance next).isTerminal := by
  revert h hn
  cases p <;> cases next <;> decide

namespace ImageBuildStatus

open Controller

variable {s : ImageBuildStatus} {b : ImageBuild} {jobName : String} {state : JobState}
  {now now' : Instant}

theorem provisionerObserved_eq (spec : ImageBuildSpec) :
    ∃ reason message, ∀ (s : ImageBuildStatus) now, s.provisionerObserved spec now =
      s.observe .provisionerReady .true reason message now := by
  simp only [provisionerObserved]
  split <;> exact ⟨_, _, fun _ _ => rfl⟩

theorem publishObserved_eq (spec : ImageBuildSpec) :
    ∃ reason message, ∀ (s : ImageBuildStatus) now, s.publishObserved spec now =
      (s.observe .publishReady (if spec.publish.isSome then .false else .true) reason message
        now).advance (if spec.publish.isSome then .publishing else .succeeded) := by
  unfold publishObserved
  cases spec.publish with
  | none => exact ⟨_, _, fun _ _ => rfl⟩
  | some publish =>
    simp only [Option.map_some, Option.isSome_some, if_true]
    split
    next hnone => cases hnone
    next => exact ⟨_, _, fun _ _ => rfl⟩
    next => exact ⟨_, _, fun _ _ => rfl⟩

/-- What is observed depends on the image build and its job alone. -/
theorem jobObserved_eq (b : ImageBuild) (jobName : String) (state : JobState) :
    ∃ reports : List Report, reports.map (fun r => (r.type, r.value)) = state.values b.spec ∧
      ∀ (s : ImageBuildStatus) now, s.jobObserved b jobName state now = {
        phase := s.phase.advance (state.phase b.spec)
        conditions := Conditions.observeAll reports now s.conditions
        startTime := state.startTime s.startTime now
        completionTime := state.completionTime s.completionTime now
        builderJobName := some jobName
        outputUrl := state.outputUrl b s.outputUrl
        observedGeneration := s.observedGeneration } := by
  cases state with
  | running start =>
    exact ⟨[⟨.builderJobReady, .false, reasonJobRunning, _⟩], rfl, fun _ _ => rfl⟩
  | failed reason message =>
    exact ⟨[⟨.builderJobReady, .false, reason, message⟩], rfl, fun _ _ => rfl⟩
  | succeeded start completion =>
    obtain ⟨provisionReason, provisioned, hprovision⟩ := provisionerObserved_eq b.spec
    obtain ⟨publishReason, published, hpublish⟩ := publishObserved_eq b.spec
    refine ⟨[⟨.baseImageReady, .true, reasonBaseImagePulled, b.spec.baseImage⟩,
      ⟨.provisionerReady, .true, provisionReason, provisioned⟩,
      ⟨.builderJobReady, .true, reasonJobSucceeded, "Builder job " ++ jobName ++ " succeeded"⟩,
      ⟨.outputReady, .true, reasonArtifactsWritten,
        ((JobState.succeeded start completion).outputUrl b none).getD ""⟩,
      ⟨.publishReady, _, publishReason, published⟩], rfl, ?_⟩
    intro s now
    simp only [jobObserved, jobSucceeded, hprovision, hpublish]
    rfl

/-- When no job could be made, the build has failed, and a section of the spec may be to blame. -/
theorem jobNotConstructed_eq (s : ImageBuildStatus) (e : JobError) (now : Instant) :
    s.jobNotConstructed e now = { s with
      phase := s.phase.advance .failed
      conditions := Conditions.observeAll e.reports now s.conditions } := by
  unfold jobNotConstructed JobError.reports
  cases e.affectedCondition <;> rfl

theorem jobObserved_again :
    (s.jobObserved b jobName state now).jobObserved b jobName state now' =
      s.jobObserved b jobName state now := by
  obtain ⟨reports, hvalues, heq⟩ := jobObserved_eq b jobName state
  have htypes := Report.nodup_of_values hvalues (state.nodup_values b.spec)
  rw [heq, heq]
  simp only [Phase.advance_again, Conditions.observeAll_again htypes, JobState.startTime_again,
    JobState.completionTime_again, JobState.outputUrl_again]

/-- A status that has a record of every condition, and was made for a generation. -/
structure Fresh (s : ImageBuildStatus) (generation : Option Int) : Prop where
  complete : ∀ type, type ∈ Conditions.types s.conditions
  generation : s.observedGeneration = generation

theorem Fresh.refresh {generation : Option Int} (h : s.Fresh generation) (now : Instant) :
    s.refresh generation now = s := by
  have hc : Conditions.initializeAll s.conditions ConditionType.all now = s.conditions :=
    Conditions.initializeAll_of_mem fun type _ => h.complete type
  simp only [ImageBuildStatus.refresh, hc, ← h.generation]

end ImageBuildStatus

namespace Controller.Finding

variable {key : Cluster.Key} {b c : ImageBuild} {f : Finding} {now now' : Instant}

theorem status_generation (key : Cluster.Key) (b : ImageBuild) (now : Instant) (f : Finding) :
    (f.status key b now).observedGeneration = b.metadata.generation := by
  cases f with
  | absent | terminating _ | refused _ _ => rfl
  | unbuildable e =>
    exact congrArg ImageBuildStatus.observedGeneration
      (ImageBuildStatus.jobNotConstructed_eq (b.recorded.refresh b.metadata.generation now) e now)
  | observed job =>
    obtain ⟨_, -, heq⟩ :=
      ImageBuildStatus.jobObserved_eq b (builderJobName key.name) (jobState job)
    simp only [status, heq]
    rfl

theorem unbuildable_phase {e : JobError} (h : ¬ b.recorded.phase.isTerminal) :
    ((unbuildable e).status key b now).phase = .failed := by
  have heq := ImageBuildStatus.jobNotConstructed_eq
    (b.recorded.refresh b.metadata.generation now) e now
  exact (congrArg ImageBuildStatus.phase heq).trans (Phase.advance_of_unfinished h rfl)

theorem status_fresh (key : Cluster.Key) (b : ImageBuild) (now : Instant) (f : Finding) :
    (f.status key b now).Fresh b.metadata.generation :=
  ⟨(status_renews key b now f).complete, status_generation key b now f⟩

end Controller.Finding

end ImageForge
