import ImageForge.Proofs.Reconcile.Stage
import ImageForge.Proofs.Resource.Conditions

/-! Whatever a reconciliation finds out about the builder job, the status only ages. -/
namespace ImageForge

/-- The status that an image build has; without one it has the default one. -/
def ImageBuild.recorded (b : ImageBuild) : ImageBuildStatus := b.status.getD {}

theorem Controller.JobError.affectedCondition_ne {e : Controller.JobError} {type : ConditionType}
    (h : e.affectedCondition = some type) : type ≠ .builderJobReady := by
  rintro rfl
  cases e <;> cases h

namespace ImageBuildStatus

open Controller

variable {jobName : String} {old mid new : ImageBuildStatus} {ts : List ConditionType}
  {type : ConditionType} {now : Instant}

/-- How a status may differ from an earlier one of an image build whose builder job has some name. -/
structure Ages (jobName : String) (old new : ImageBuildStatus) : Prop where
  phase : old.phase.rank ≤ new.phase.rank
  terminal : old.phase.isTerminal → new.phase = old.phase
  startTime : ∀ t, old.startTime = some t → new.startTime = some t
  completionTime : ∀ t, old.completionTime = some t → new.completionTime = some t
  builderJobName : new.builderJobName = old.builderJobName ∨ new.builderJobName = some jobName
  conditions : Conditions.types old.conditions <+: Conditions.types new.conditions

theorem Ages.refl (jobName : String) (s : ImageBuildStatus) : Ages jobName s s where
  phase := Nat.le_refl _
  terminal _ := rfl
  startTime _ h := h
  completionTime _ h := h
  builderJobName := Or.inl rfl
  conditions := List.prefix_rfl

theorem Ages.trans (h : Ages jobName old mid) (h' : Ages jobName mid new) :
    Ages jobName old new where
  phase := Nat.le_trans h.phase h'.phase
  terminal ht := by
    have hmid := h.terminal ht
    exact (h'.terminal (hmid ▸ ht)).trans hmid
  startTime t ht := h'.startTime t (h.startTime t ht)
  completionTime t ht := h'.completionTime t (h.completionTime t ht)
  builderJobName := by
    rcases h'.builderJobName with hsame | hset
    · rw [hsame]
      exact h.builderJobName
    · exact Or.inr hset
  conditions := h.conditions.trans h'.conditions

/-- A status that has aged through one observation at most of each of some types. -/
structure AgesBy (jobName : String) (ts : List ConditionType) (old new : ImageBuildStatus) :
    Prop where
  ages : Ages jobName old new
  touched : Conditions.Touched ts old.conditions new.conditions

namespace AgesBy

theorem refl (jobName : String) (s : ImageBuildStatus) : AgesBy jobName [] s s :=
  ⟨.refl jobName s, .refl s.conditions⟩

theorem refreshed (h : AgesBy jobName [] old mid) (generation : Option Int) :
    AgesBy jobName [] old (mid.refresh generation now) := by
  have htouched : Conditions.Touched [] old.conditions (mid.refresh generation now).conditions :=
    h.touched.initializeAll ConditionType.all
  exact ⟨{ h.ages with conditions := htouched.order }, htouched⟩

theorem observed (h : AgesBy jobName ts old mid) (ht : type ∉ ts) {value : ConditionStatus}
    {reason message : String} :
    AgesBy jobName (type :: ts) old (mid.observe type value reason message now) := by
  have htouched : Conditions.Touched (type :: ts) old.conditions
      (mid.observe type value reason message now).conditions := h.touched.observe ht
  exact ⟨{ h.ages with conditions := htouched.order }, htouched⟩

theorem advanced (h : AgesBy jobName ts old mid) (next : Phase) :
    AgesBy jobName ts old (mid.advance next) := by
  refine ⟨{ h.ages with phase := ?_, terminal := ?_ }, h.touched⟩
  · exact Nat.le_trans h.ages.phase (Phase.rank_le_advance mid.phase next)
  · intro ht
    have hmid := h.ages.terminal ht
    exact (Phase.advance_of_isTerminal (hmid ▸ ht) next).trans hmid

theorem named (h : AgesBy jobName ts old mid) :
    AgesBy jobName ts old { mid with builderJobName := some jobName } :=
  ⟨{ h.ages with builderJobName := Or.inr rfl }, h.touched⟩

theorem located (h : AgesBy jobName ts old mid) (url : Option String) :
    AgesBy jobName ts old { mid with outputUrl := url } :=
  ⟨{ h.ages with }, h.touched⟩

theorem started (h : AgesBy jobName ts old mid) (start : Option Instant) :
    AgesBy jobName ts old { mid with startTime := mid.startTime.or start } := by
  refine ⟨{ h.ages with startTime := ?_ }, h.touched⟩
  intro t ht
  exact congrArg (Option.or · start) (h.ages.startTime t ht)

theorem completed (h : AgesBy jobName ts old mid) (completion : Option Instant) :
    AgesBy jobName ts old { mid with completionTime := mid.completionTime.or completion } := by
  refine ⟨{ h.ages with completionTime := ?_ }, h.touched⟩
  intro t ht
  exact congrArg (Option.or · completion) (h.ages.completionTime t ht)

theorem jobRejected (h : AgesBy jobName [] old mid) (why : String) :
    AgesBy jobName [.builderJobReady] old (mid.jobRejected why now) :=
  (h.observed List.not_mem_nil).advanced .failed

theorem jobNotConstructed (h : AgesBy jobName [] old mid) (e : JobError) :
    AgesBy jobName (e.affectedCondition.toList ++ [.builderJobReady]) old
      (mid.jobNotConstructed e now) := by
  unfold ImageBuildStatus.jobNotConstructed
  cases ha : e.affectedCondition with
  | none => exact (h.observed List.not_mem_nil).advanced .failed
  | some type =>
    have hne : type ∉ [ConditionType.builderJobReady] := by
      simpa using JobError.affectedCondition_ne ha
    exact ((h.observed List.not_mem_nil).observed hne).advanced .failed

theorem jobRunning (h : AgesBy jobName [] old mid) (start : Option Instant) :
    AgesBy jobName [.builderJobReady] old (mid.jobRunning jobName start now) :=
  (((h.started start).started (some now)).observed List.not_mem_nil).advanced .building

theorem jobFailed (h : AgesBy jobName [] old mid) (reason message : String) :
    AgesBy jobName [.builderJobReady] old (mid.jobFailed reason message now) :=
  ((h.completed (some now)).observed List.not_mem_nil).advanced .failed

theorem provisionerObserved (h : AgesBy jobName ts old mid) (ht : .provisionerReady ∉ ts)
    (spec : ImageBuildSpec) :
    AgesBy jobName (.provisionerReady :: ts) old (mid.provisionerObserved spec now) := by
  simp only [ImageBuildStatus.provisionerObserved]
  split <;> exact h.observed ht

theorem publishObserved (h : AgesBy jobName ts old mid) (ht : .publishReady ∉ ts)
    (spec : ImageBuildSpec) :
    AgesBy jobName (.publishReady :: ts) old (mid.publishObserved spec now) := by
  unfold ImageBuildStatus.publishObserved
  split <;> exact (h.observed ht).advanced _

theorem jobSucceeded (h : AgesBy jobName [] old mid) (b : ImageBuild)
    (start completion : Option Instant) :
    AgesBy jobName
      [.publishReady, .outputReady, .builderJobReady, .provisionerReady, .baseImageReady] old
      (mid.jobSucceeded b jobName start completion now) := by
  have htimes :=
    (((h.started start).started (some now)).completed completion).completed (some now)
  -- The types of the five observations differ, so each of them is of a type not observed before.
  refine .publishObserved (.observed (.observed (.provisionerObserved
    (.observed (htimes.located _) ?_) ?_ b.spec) ?_) ?_) ?_ b.spec
  all_goals decide

end AgesBy

/-- A status that takes the place of another one: it has aged, the time of a condition has moved only
with its value, and every condition is there. -/
structure Renews (jobName : String) (old new : ImageBuildStatus) : Prop where
  ages : Ages jobName old new
  steady : Conditions.Steady old.conditions new.conditions
  complete : ∀ type, type ∈ Conditions.types new.conditions
  once : (Conditions.types old.conditions).Nodup →
    ∀ type, (Conditions.types new.conditions).count type = 1

end ImageBuildStatus

theorem ConditionType.mem_all (type : ConditionType) : type ∈ ConditionType.all := by
  cases type <;> decide

namespace Controller.Finding

open ImageBuildStatus

variable {key : Cluster.Key} {b : ImageBuild} {old : ImageBuildStatus} {now : Instant}

/-- A finding makes at most one observation of each type. -/
theorem agesBy (h : AgesBy (builderJobName key.name) [] old
    (b.recorded.refresh b.metadata.generation now)) (f : Finding) :
    ∃ ts, AgesBy (builderJobName key.name) ts old (f.status key b now) := by
  cases f with
  | absent | terminating _ => exact ⟨_, h⟩
  | refused _ why => exact ⟨_, h.jobRejected why⟩
  | unbuildable e => exact ⟨_, h.jobNotConstructed e⟩
  | observed job =>
    simp only [status, jobObserved]
    cases jobState job with
    | running start => exact ⟨_, h.named.jobRunning start⟩
    | succeeded start completion => exact ⟨_, h.named.jobSucceeded b start completion⟩
    | failed reason message => exact ⟨_, h.named.jobFailed reason message⟩

/-- Whatever is found out, the status that tells it renews the one that was read. -/
theorem status_renews (key : Cluster.Key) (b : ImageBuild) (now : Instant) (f : Finding) :
    Renews (builderJobName key.name) b.recorded (f.status key b now) := by
  obtain ⟨_, hread⟩ := agesBy ((AgesBy.refl _ b.recorded).refreshed b.metadata.generation) f
  -- The refreshed status has a record of every type, and none is lost from there on.
  obtain ⟨_, hfresh⟩ := agesBy (.refl _ (b.recorded.refresh b.metadata.generation now)) f
  have hcomplete : ∀ type, type ∈ Conditions.types (f.status key b now).conditions := by
    intro type
    exact hfresh.touched.order.mem (Conditions.mem_types_initializeAll type.mem_all)
  refine ⟨hread.ages, hread.touched.steady, hcomplete, ?_⟩
  intro hnodup type
  exact List.count_eq_one_of_mem (hread.touched.nodup hnodup) (hcomplete type)

end Controller.Finding

end ImageForge
