import ImageForge.Proofs.Reconcile.Observation

/-! What the phase of a status and everything else in it have to say together. -/
namespace ImageForge

open Controller

/-- How a job may stand after it has stood in some way: whatever has ended stays so. -/
inductive Controller.JobState.MayBecome : JobState → JobState → Prop
  | running (start : Option Instant) (state : JobState) : MayBecome (.running start) state
  | succeeded (start completion start' completion' : Option Instant) :
      MayBecome (.succeeded start completion) (.succeeded start' completion')
  | failed (reason message reason' message' : String) :
      MayBecome (.failed reason message) (.failed reason' message')

namespace Controller.JobState.MayBecome

variable {a b c : JobState}

theorem refl (state : JobState) : state.MayBecome state := by
  cases state with
  | running _ => exact .running _ _
  | succeeded _ _ => exact .succeeded _ _ _ _
  | failed _ _ => exact .failed _ _ _ _

theorem trans (h : a.MayBecome b) (h' : b.MayBecome c) : a.MayBecome c := by
  cases h with
  | running start _ => exact .running start c
  | succeeded _ _ _ _ =>
    cases h'
    exact .succeeded _ _ _ _
  | failed _ _ _ _ =>
    cases h'
    exact .failed _ _ _ _

end Controller.JobState.MayBecome

/-- How the job of a build may stand in a phase: a build that is over has ended as its job has. -/
inductive Phase.Fits : Phase → JobState → Prop
  | unfinished {p : Phase} (h : ¬ p.isTerminal) (state : JobState) : Fits p state
  | succeeded (start completion : Option Instant) : Fits .succeeded (.succeeded start completion)
  | failed (reason message : String) : Fits .failed (.failed reason message)

namespace Phase.Fits

variable {p : Phase} {state state' : JobState}

theorem kept (h : p.Fits state) (hs : state.MayBecome state') : p.Fits state' := by
  cases h with
  | unfinished h _ => exact .unfinished h state'
  | succeeded _ _ =>
    cases hs
    exact .succeeded _ _
  | failed _ _ =>
    cases hs
    exact .failed _ _

theorem advance_succeeded {start completion : Option Instant}
    (h : p.Fits (.succeeded start completion)) : p.advance .succeeded = .succeeded := by
  cases h with
  | unfinished h _ => exact advance_of_unfinished h rfl
  | succeeded _ _ => rfl

theorem advance_failed {reason message : String} (h : p.Fits (.failed reason message)) :
    p.advance .failed = .failed := by
  cases h with
  | unfinished h _ => exact advance_of_unfinished h rfl
  | failed _ _ => rfl

theorem observed (h : p.Fits state) (spec : ImageBuildSpec) :
    (p.advance (state.phase spec)).Fits state := by
  cases h with
  | succeeded _ _ => exact .succeeded _ _
  | failed _ _ => exact .failed _ _
  | unfinished h _ =>
    by_cases hover : (state.phase spec).isTerminal
    · rw [advance_of_unfinished h hover]
      cases state with
      | running _ => cases hover
      | failed _ _ => exact .failed _ _
      | succeeded _ _ =>
        simp only [JobState.phase] at hover ⊢
        split at hover
        · cases hover
        next hp =>
          rw [if_neg hp]
          exact .succeeded _ _
    · exact .unfinished (advance_unfinished h hover) state

end Phase.Fits

namespace ImageBuildStatus

def Says (s : ImageBuildStatus) (type : ConditionType) (value : ConditionStatus) : Prop :=
  ∃ c, s.condition? type = some c ∧ c.status = value

/-- Phase, conditions and times of a status belong to one state of a build with some spec. -/
inductive Consistent (spec : ImageBuildSpec) (s : ImageBuildStatus) : Prop
  | pending (phase : s.phase = .pending)
      (conditions : ∀ c ∈ s.conditions,
        c.status = .unknown ∧ c.reason = Condition.initializing)
      (startTime : s.startTime = none) (completionTime : s.completionTime = none)
      (builderJobName : s.builderJobName = none) (outputUrl : s.outputUrl = none)
  | building (phase : s.phase = .building)
      (job : ∃ c, s.condition? .builderJobReady = some c ∧ c.status = .false ∧
        c.reason = reasonJobRunning)
      (startTime : s.startTime.isSome) (completionTime : s.completionTime = none)
  | publishing (phase : s.phase = .publishing) (publish : spec.publish.isSome)
      (baseImage : s.Says .baseImageReady .true) (provisioner : s.Says .provisionerReady .true)
      (output : s.Says .outputReady .true) (published : s.Says .publishReady .false)
      (completionTime : s.completionTime.isSome)
  | succeeded (phase : s.phase = .succeeded) (publish : spec.publish = none)
      (conditions : ∀ type, s.Says type .true)
      (startTime : s.startTime.isSome) (completionTime : s.completionTime.isSome)
      (builderJobName : s.builderJobName.isSome)
  | failed (phase : s.phase = .failed) (job : s.Says .builderJobReady .false)

variable {s : ImageBuildStatus} {spec : ImageBuildSpec} {b : ImageBuild} {jobName : String}
  {state : JobState} {now : Instant} {type : ConditionType} {value : ConditionStatus}

theorem Says.refresh (h : s.Says type value) (generation : Option Int) (now : Instant) :
    (s.refresh generation now).Says type value := by
  obtain ⟨c, hc, hv⟩ := h
  exact ⟨c, Conditions.find?_initializeAll_of_some hc, hv⟩

theorem Consistent.refresh (h : s.Consistent spec) (generation : Option Int) (now : Instant) :
    (s.refresh generation now).Consistent spec := by
  cases h with
  | pending phase conditions startTime completionTime builderJobName outputUrl =>
    refine .pending phase ?_ startTime completionTime builderJobName outputUrl
    intro c hc
    rcases Conditions.mem_initializeAll hc with hc | ⟨type, rfl⟩
    · exact conditions c hc
    · exact ⟨rfl, rfl⟩
  | building phase job startTime completionTime =>
    obtain ⟨c, hc, hjob⟩ := job
    exact .building phase ⟨c, Conditions.find?_initializeAll_of_some hc, hjob⟩ startTime
      completionTime
  | publishing phase publish baseImage provisioner output published completionTime =>
    exact .publishing phase publish (baseImage.refresh _ _) (provisioner.refresh _ _)
      (output.refresh _ _) (published.refresh _ _) completionTime
  | succeeded phase publish conditions startTime completionTime builderJobName =>
    exact .succeeded phase publish (fun type => (conditions type).refresh _ _) startTime
      completionTime builderJobName
  | failed phase job => exact .failed phase (job.refresh _ _)

theorem Says.observe_of_ne {t : ConditionType} {other : ConditionStatus} {reason message : String}
    (h : s.Says type value) (hne : type ≠ t) :
    (s.observe t other reason message now).Says type value := by
  obtain ⟨c, hc, hv⟩ := h
  exact ⟨c, (Conditions.find?_observe_of_ne hne).trans hc, hv⟩

/-- After a look at the job the conditions have the values that its state gives them. -/
theorem says_jobObserved (s : ImageBuildStatus) (h : (type, value) ∈ state.values b.spec) :
    (s.jobObserved b jobName state now).Says type value := by
  obtain ⟨reports, hvalues, heq⟩ := jobObserved_eq b jobName state
  have htypes := Report.nodup_of_values hvalues (state.nodup_values b.spec)
  rw [heq]
  exact Conditions.find?_observeAll_of_mem htypes (hvalues ▸ h)

namespace Consistent

theorem jobRunning {start : Option Instant} (h : s.Consistent b.spec)
    (hfits : s.phase.Fits (.running start)) :
    (s.jobObserved b jobName (.running start) now).Consistent b.spec := by
  have hphase : (s.jobObserved b jobName (.running start) now).phase = s.phase.advance .building :=
    rfl
  have hstart : (s.jobObserved b jobName (.running start) now).startTime.isSome := by
    simp [jobObserved, ImageBuildStatus.jobRunning, observe, advance]
  obtain ⟨time, hjob⟩ := Conditions.find?_observe .builderJobReady .false reasonJobRunning
    ("Builder job " ++ jobName ++ " is running") now s.conditions
  have hkept : ∀ {type value}, s.Says type value → type ≠ .builderJobReady →
      (s.jobObserved b jobName (.running start) now).Says type value :=
    fun h hne => h.observe_of_ne hne
  cases h with
  | pending phase _ _ completionTime _ _ =>
    rw [phase] at hphase
    exact .building hphase ⟨_, hjob, rfl, rfl⟩ hstart completionTime
  | building phase _ _ completionTime =>
    rw [phase] at hphase
    exact .building hphase ⟨_, hjob, rfl, rfl⟩ hstart completionTime
  | publishing phase publish baseImage provisioner output published completionTime =>
    rw [phase] at hphase
    exact .publishing hphase publish (hkept baseImage (by decide)) (hkept provisioner (by decide))
      (hkept output (by decide)) (hkept published (by decide)) completionTime
  | succeeded phase _ _ _ _ _ | failed phase _ =>
    rw [phase] at hfits
    cases hfits with
    | unfinished h _ => exact absurd rfl h

theorem jobSucceeded {start completion : Option Instant} (h : s.Consistent b.spec)
    (hfits : s.phase.Fits (.succeeded start completion)) :
    (s.jobObserved b jobName (.succeeded start completion) now).Consistent b.spec := by
  obtain ⟨reports, -, heq⟩ := jobObserved_eq b jobName (.succeeded start completion)
  have hvalue : ∀ {type value},
      (type, value) ∈ JobState.values b.spec (.succeeded start completion) →
        (s.jobObserved b jobName (.succeeded start completion) now).Says type value :=
    says_jobObserved s
  rw [heq] at hvalue ⊢
  cases hp : b.spec.publish with
  | none =>
    refine .succeeded (by simpa [JobState.phase, hp] using hfits.advance_succeeded) hp ?_
      (by simp [JobState.startTime]) (by simp [JobState.completionTime]) rfl
    intro type
    refine hvalue ?_
    cases type <;> simp [JobState.values, hp]
  | some publish =>
    have hphase : s.phase.advance .publishing = .publishing := by
      cases h with
      | pending phase _ _ _ _ _ | building phase _ _ _ | publishing phase _ _ _ _ _ _ =>
        rw [phase]
        rfl
      | succeeded _ hnone _ _ _ _ => cases hnone.symm.trans hp
      | failed phase _ =>
        rw [phase] at hfits
        cases hfits with
        | unfinished hs _ => exact absurd rfl hs
    refine .publishing (by simpa [JobState.phase, hp] using hphase) (by simp [hp]) (hvalue ?_)
      (hvalue ?_) (hvalue ?_) (hvalue ?_) (by simp [JobState.completionTime])
    all_goals simp [JobState.values, hp]

theorem jobFailed {reason message : String}
    (hfits : s.phase.Fits (.failed reason message)) :
    (s.jobObserved b jobName (.failed reason message) now).Consistent spec := by
  obtain ⟨time, hjob⟩ :=
    Conditions.find?_observe .builderJobReady .false reason message now s.conditions
  exact .failed hfits.advance_failed ⟨_, hjob, rfl⟩

theorem jobObserved (h : s.Consistent b.spec) (hfits : s.phase.Fits state) :
    (s.jobObserved b jobName state now).Consistent b.spec := by
  cases state with
  | running start => exact h.jobRunning hfits
  | succeeded start completion => exact h.jobSucceeded hfits
  | failed reason message => exact jobFailed hfits

theorem jobRejected (hs : ¬ s.phase.isTerminal) (why : String) :
    (s.jobRejected why now).Consistent spec := by
  obtain ⟨time, hjob⟩ :=
    Conditions.find?_observe .builderJobReady .false reasonJobRejected why now s.conditions
  exact .failed (Phase.advance_of_unfinished hs rfl) ⟨_, hjob, rfl⟩

theorem jobNotConstructed (hs : ¬ s.phase.isTerminal) (e : JobError) :
    (s.jobNotConstructed e now).Consistent spec := by
  rw [jobNotConstructed_eq]
  refine .failed (Phase.advance_of_unfinished hs rfl)
    (Conditions.find?_observeAll_of_mem e.nodup_reports ?_)
  rw [e.values_reports]
  exact List.mem_cons_self

end Consistent

end ImageBuildStatus

namespace Controller.Finding

variable {key : Cluster.Key} {settings : BuilderSettings} {b : ImageBuild} {now : Instant}
  {f : Finding}

/-- What is found out is told by a status that is consistent again, when the job that was found fits
the phase. -/
theorem status_consistent (h : b.recorded.Consistent b.spec) (hf : f.Holds settings b)
    (hfits : ∀ job, f = .observed job → b.recorded.phase.Fits (jobState job)) :
    (f.status key b now).Consistent b.spec := by
  have hfresh := h.refresh b.metadata.generation now
  cases f with
  | absent | terminating _ => exact hfresh
  | observed job => exact hfresh.jobObserved (hfits job rfl)
  | refused _ why =>
    have hopen : ¬ (b.recorded.refresh b.metadata.generation now).phase.isTerminal := hf.1
    exact .jobRejected hopen why
  | unbuildable e =>
    have hopen : ¬ (b.recorded.refresh b.metadata.generation now).phase.isTerminal := hf.1
    exact .jobNotConstructed hopen e

theorem observed_fits {job : Job} (h : b.recorded.phase.Fits (jobState job)) :
    ((observed job).status key b now).phase.Fits (jobState job) := by
  obtain ⟨_, -, heq⟩ :=
    ImageBuildStatus.jobObserved_eq b (builderJobName key.name) (jobState job)
  simp only [status, heq]
  exact h.observed b.spec

end Controller.Finding

end ImageForge
