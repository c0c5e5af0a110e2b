import ImageForge.Proofs.Reconcile.Observation
import ImageForge.Proofs.Resource.StatusPatch

/-! The times of a status are valid when those that were there, those that the builder job reports and
the present are. -/
namespace ImageForge

namespace Conditions

variable {cs : List Condition} {reports : List Report} {all : List ConditionType} {now : Instant}

theorem valid_observe {type : ConditionType} {value : ConditionStatus} {reason message : String}
    (hnow : now.IsValid) (h : ∀ c ∈ cs, c.lastTransitionTime.IsValid) :
    ∀ c ∈ observe type value reason message now cs, c.lastTransitionTime.IsValid := by
  induction cs with
  | nil =>
    intro c hc
    rw [List.mem_singleton.mp hc]
    exact hnow
  | cons first cs ih =>
    obtain ⟨hfirst, hcs⟩ := List.forall_mem_cons.mp h
    unfold observe
    split
    · refine List.forall_mem_cons.mpr ⟨?_, hcs⟩
      simp only [Condition.observe]
      split
      · exact hfirst
      · exact hnow
    · exact List.forall_mem_cons.mpr ⟨hfirst, ih hcs⟩

theorem valid_observeAll (hnow : now.IsValid) (h : ∀ c ∈ cs, c.lastTransitionTime.IsValid) :
    ∀ c ∈ observeAll reports now cs, c.lastTransitionTime.IsValid := by
  induction reports generalizing cs with
  | nil => exact h
  | cons r reports ih => exact ih (valid_observe hnow h)

theorem valid_initializeAll (hnow : now.IsValid) (h : ∀ c ∈ cs, c.lastTransitionTime.IsValid) :
    ∀ c ∈ initializeAll cs all now, c.lastTransitionTime.IsValid := by
  intro c hc
  obtain hc | ⟨type, rfl⟩ := mem_initializeAll hc
  · exact h c hc
  · exact hnow

end Conditions

def Job.ReportsValidTimes (job : Job) : Prop :=
  ∀ status, job.status = some status → (∀ t, status.startTime = some t → t.IsValid) ∧
    ∀ t, status.completionTime = some t → t.IsValid

namespace Controller.JobState

variable {state : JobState} {old : Option Instant} {now t : Instant}

def TimesValid : JobState → Prop
  | .running start => ∀ t, start = some t → t.IsValid
  | .succeeded start completion =>
    (∀ t, start = some t → t.IsValid) ∧ ∀ t, completion = some t → t.IsValid
  | .failed _ _ => True

theorem timesValid_jobState {job : Job} (h : job.ReportsValidTimes) : (jobState job).TimesValid := by
  have hdrop : ∀ time : Option Instant, (∀ t, time = some t → t.IsValid) →
      ∀ t, time.map (·.dropFraction) = some t → t.IsValid := by
    rintro time htime t ht
    obtain ⟨t', rfl, rfl⟩ := Option.map_eq_some_iff.mp ht
    exact (htime t' rfl).dropFraction
  unfold jobState
  split
  · trivial
  · cases hstatus : job.status with
    | none =>
      intro t ht
      cases ht
    | some status =>
      obtain ⟨hstart, hcompletion⟩ := h status hstatus
      dsimp only
      split
      · exact ⟨hdrop _ hstart, hdrop _ hcompletion⟩
      split
      · trivial
      · exact hdrop _ hstart

/-- A time that is filled in is an old one, a reported one or the present. -/
theorem valid_or {time : Option Instant} (hnow : now.IsValid) (hold : ∀ t, old = some t → t.IsValid)
    (htime : ∀ t, time = some t → t.IsValid) (h : (old.or time).or (some now) = some t) :
    t.IsValid := by
  cases old with
  | some t' => exact hold t h
  | none =>
    cases time with
    | some t' => exact htime t h
    | none =>
      cases h
      exact hnow

theorem valid_startTime (h : state.TimesValid) (hnow : now.IsValid)
    (hold : ∀ t, old = some t → t.IsValid) (ht : state.startTime old now = some t) : t.IsValid := by
  cases state with
  | running start => exact valid_or hnow hold h ht
  | succeeded start completion => exact valid_or hnow hold h.1 ht
  | failed reason message => exact hold t ht

theorem valid_completionTime (h : state.TimesValid) (hnow : now.IsValid)
    (hold : ∀ t, old = some t → t.IsValid) (ht : state.completionTime old now = some t) :
    t.IsValid := by
  cases state with
  | running start => exact hold t ht
  | succeeded start completion => exact valid_or hnow hold h.2 ht
  | failed reason message =>
    cases old with
    | some t' => exact hold t ht
    | none =>
      cases ht
      exact hnow

end Controller.JobState

namespace ImageBuildStatus

variable {s : ImageBuildStatus} {now : Instant}

theorem InRange.refresh {generation : Option Int} (h : s.InRange) (hnow : now.IsValid)
    (hg : ∀ n, generation = some n → InInt64 n) : (s.refresh generation now).InRange :=
  ⟨h.startTime, h.completionTime, Conditions.valid_initializeAll hnow h.conditions, hg⟩

theorem InRange.jobRejected (h : s.InRange) (hnow : now.IsValid) (why : String) :
    (s.jobRejected why now).InRange :=
  ⟨h.startTime, h.completionTime, Conditions.valid_observe hnow h.conditions, h.observedGeneration⟩

theorem InRange.jobNotConstructed (h : s.InRange) (hnow : now.IsValid) (e : Controller.JobError) :
    (s.jobNotConstructed e now).InRange := by
  rw [jobNotConstructed_eq]
  exact ⟨h.startTime, h.completionTime, Conditions.valid_observeAll hnow h.conditions,
    h.observedGeneration⟩

theorem InRange.jobObserved {state : Controller.JobState} (h : s.InRange) (hnow : now.IsValid)
    (hstate : state.TimesValid) (b : ImageBuild) (jobName : String) :
    (s.jobObserved b jobName state now).InRange := by
  obtain ⟨reports, -, heq⟩ := jobObserved_eq b jobName state
  rw [heq]
  exact ⟨fun _ ht => Controller.JobState.valid_startTime hstate hnow h.startTime ht,
    fun _ ht => Controller.JobState.valid_completionTime hstate hnow h.completionTime ht,
    Conditions.valid_observeAll hnow h.conditions, h.observedGeneration⟩

end ImageBuildStatus

namespace Controller.Finding

variable {key : Cluster.Key} {b : ImageBuild} {now : Instant}

theorem status_inRange (hb : b.recorded.InRange) (hnow : now.IsValid)
    (hg : ∀ n, b.metadata.generation = some n → InInt64 n) {f : Finding}
    (hf : ∀ job, f = .observed job → job.ReportsValidTimes) : (f.status key b now).InRange := by
  have hfresh : (b.recorded.refresh b.metadata.generation now).InRange := hb.refresh hnow hg
  cases f with
  | absent | terminating _ => exact hfresh
  | refused _ why => exact hfresh.jobRejected hnow why
  | unbuildable e => exact hfresh.jobNotConstructed hnow e
  | observed job =>
    exact hfresh.jobObserved hnow (JobState.timesValid_jobState (hf job rfl)) b _

end Controller.Finding

end ImageForge
