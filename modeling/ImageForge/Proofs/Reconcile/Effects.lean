import ImageForge.Proofs.Cluster.Departure
import ImageForge.Proofs.Reconcile.Foretelling
import ImageForge.Proofs.Reconcile.Ownership

/-! What an invocation sees decides what it leaves at its own keys, and which jobs it sweeps away
elsewhere. -/
namespace ImageForge

/-- The object apart from its version. -/
def ImageBuild.unversioned (b : ImageBuild) : ImageBuild :=
  { b with metadata := { b.metadata with resourceVersion := none } }

def Job.unversioned (job : Job) : Job :=
  { job with metadata := { job.metadata with resourceVersion := none } }

/-- A job stays when an object is gone, unless the object owns it. -/
def Job.survives (job : Job) (gone : Option String) : Bool := !gone.any job.isOwnedBy

namespace Controller

open Cluster

/-- What an invocation leaves at its own keys, up to versions; whose jobs it sweeps away elsewhere; and
what it records. -/
structure Effect where
  imageBuild : Option ImageBuild
  job : Option Job
  swept : Option String
  events : List Event

structure Effect.Holds (e : Effect) (key : Key) (s t : Store) : Prop where
  ownImageBuild : (t.imageBuilds.get? key).map (·.unversioned) = e.imageBuild
  otherImageBuilds : ∀ k ≠ key, t.imageBuilds.get? k = s.imageBuilds.get? k
  ownJob : (t.jobs.get? (jobKey key)).map (·.unversioned) = e.job
  otherJobs : ∀ k ≠ jobKey key, t.jobs.get? k = (s.jobs.get? k).filter (·.survives e.swept)
  events : t.events = s.events ++ e.events
  lingering : t.holdJobDeletions = s.holdJobDeletions
  distinct : t.jobs.Distinct

/-- An effect is on what belongs to the image build alone: only its own jobs are swept away, and its job
has no owners but itself and those from before. -/
structure Effect.Private (e : Effect) (v : View) : Prop where
  swept : ∀ uid, e.swept = some uid → v.imageBuild.metadata.uid = some uid
  owners : ∀ job uid, e.job = some job → job.isOwnedBy uid →
    v.imageBuild.metadata.uid = some uid ∨ ∃ before, v.job = some before ∧ before.isOwnedBy uid

variable {key key' : Key} {v v' : View} {s t u : Store} {r : Request} {e e' : Effect}

namespace View

def unchanged (v : View) : Effect :=
  ⟨some v.imageBuild.unversioned, v.job.map (·.unversioned), none, []⟩

def rewritten (v : View) (b : ImageBuild) (event : Event) : Effect :=
  ⟨some b.unversioned, v.job.map (·.unversioned), none, [event]⟩

def gone (v : View) (event : Event) : Effect := ⟨none, none, v.imageBuild.metadata.uid, [event]⟩

def withJob (v : View) (job : Option Job) (event : Event) : Effect :=
  ⟨some v.imageBuild.unversioned, job.map (·.unversioned), none, [event]⟩

end View

@[simp]
theorem filter_survives_none (job : Option Job) : job.filter (·.survives none) = job := by
  cases job <;> rfl

theorem removed_jobs (h : s.jobs.Distinct) (key k : Key) (uid : Option String) :
    (s.removed key uid).jobs.get? k = (s.jobs.get? k).filter (·.survives uid) := by
  cases uid with
  | none => exact (filter_survives_none _).symm
  | some uid => exact h.get?_keep (!·.isOwnedBy uid) k

/-- What is left of a job when it is deleted. -/
def remains (lingering : Bool) (job : Option Job) : Option Job :=
  if lingering then job.map fun job =>
    { job with metadata := { job.metadata with deletionTimestamp := some deletionTime } }
  else none

theorem deleteJob_jobs (s : Store) (k k' : Key) : (s.deleteJob k).jobs.get? k' =
    if k' = k then remains s.holdJobDeletions (s.jobs.get? k) else s.jobs.get? k' := by
  unfold Store.deleteJob remains
  split
  · split
    next habsent =>
      split
      next hk => rw [hk, habsent]; rfl
      next => rfl
    next job hj => rw [Table.get?_put, hj]; rfl
  · exact Table.get?_erase _ _ _

namespace Sees

theorem unchanged (h : Sees key v s) : v.unchanged.Holds key s s where
  ownImageBuild := congrArg (Option.map _) h.imageBuild
  otherImageBuilds _ _ := rfl
  ownJob := congrArg (Option.map _) h.job
  otherJobs _ _ := (filter_survives_none _).symm
  events := (List.append_nil _).symm
  lingering := rfl
  distinct := h.distinct

theorem rewritten (h : Sees key v s) {b b' : ImageBuild} (hb : b'.unversioned = b.unversioned)
    (event : Event) :
    (v.rewritten b event).Holds key s ((s.replaced key b').record event) where
  ownImageBuild := (congrArg (Option.map _) (Table.get?_put_self _ _ _)).trans (congrArg some hb)
  otherImageBuilds _ hk := Table.get?_put_of_ne hk _ _
  ownJob := congrArg (Option.map _) h.job
  otherJobs _ _ := (filter_survives_none _).symm
  events := rfl
  lingering := rfl
  distinct := h.distinct

theorem gone (h : Sees key v s) (vacant : v.job = none) (event : Event) :
    (v.gone event).Holds key s
      ((s.removed key v.imageBuild.metadata.uid).record event) where
  ownImageBuild := by simp [Store.removed, Store.record, View.gone]
  otherImageBuilds k hk := by
    simp only [Store.removed, Store.record, Store.collectGarbage_imageBuilds]
    exact Table.get?_erase_of_ne hk _
  ownJob := by
    rw [Store.record, removed_jobs h.distinct, h.job, vacant]
    rfl
  otherJobs k _ := removed_jobs h.distinct key k _
  events := by simp [Store.removed, Store.record, Store.bump, View.gone]
  lingering := by cases v.imageBuild.metadata.uid <;> rfl
  distinct := (Store.removed_dwindles s key _).distinct h.distinct

theorem stocked (h : Sees key v s) {job job' : Job} (hj : job'.unversioned = job.unversioned)
    (event : Event) :
    (v.withJob (some job) event).Holds key s
      ((s.stocked (jobKey key) job').record event) where
  ownImageBuild := congrArg (Option.map _) h.imageBuild
  otherImageBuilds _ _ := rfl
  ownJob := (congrArg (Option.map _) (Table.get?_put_self _ _ _)).trans (congrArg some hj)
  otherJobs _ hk := (Table.get?_put_of_ne hk _ _).trans (filter_survives_none _).symm
  events := rfl
  lingering := rfl
  distinct := h.distinct.put

theorem deleted (h : Sees key v s) (event : Event) :
    (v.withJob (remains v.lingering v.job) event).Holds key s
      ((s.deleteJob (jobKey key)).record event) where
  ownImageBuild := by
    rw [Store.record, Store.deleteJob_imageBuilds, h.imageBuild]
    rfl
  otherImageBuilds k _ := by rw [Store.record, Store.deleteJob_imageBuilds]
  ownJob := by
    rw [Store.record, deleteJob_jobs, if_pos rfl, h.lingering, h.job]
    rfl
  otherJobs k hk := by
    rw [Store.record, deleteJob_jobs, if_neg hk]
    exact (filter_survives_none _).symm
  events := by
    rw [Store.record, Store.deleteJob_events]
    rfl
  lingering := by
    simp only [Store.record, Store.deleteJob]
    split
    · split <;> rfl
    · rfl
  distinct := (Store.deleteJob_dwindles s _).distinct h.distinct

end Sees

theorem Effect.Private.of_owners {b : Option ImageBuild} {job : Option Job} {events : List Event}
    (h : ∀ after, job = some after → ∃ before, v.job = some before ∧
      after.lineage = before.lineage) : Effect.Private ⟨b, job, none, events⟩ v where
  swept _ hs := by cases hs
  owners after uid ha ho := by
    obtain ⟨before, hb, hl⟩ := h after ha
    exact Or.inr ⟨before, hb, (Store.isOwnedBy_of_lineage hl).symm.trans ho⟩

theorem Effect.Private.of_same_job (v : View) (b : Option ImageBuild) (events : List Event) :
    Effect.Private ⟨b, v.job.map (·.unversioned), none, events⟩ v := by
  refine .of_owners fun after ha => ?_
  obtain ⟨before, hb, rfl⟩ := Option.map_eq_some_iff.mp ha
  exact ⟨before, hb, rfl⟩

theorem Effect.Private.gone (v : View) (event : Event) : (v.gone event).Private v where
  swept _ hu := hu
  owners _ _ hj := by cases hj

theorem Effect.Private.created {job : Job} {o : OwnerReference}
    (owned : job.metadata.ownerReferences = some [o])
    (owner : v.imageBuild.metadata.uid = some o.uid) (ns : String) (event : Event) :
    (v.withJob (some (job.accepted ns "")) event).Private v where
  swept _ hs := by cases hs
  owners after uid ha ho := by
    cases ha
    have huid : o.uid = uid := (isOwnedBy_iff owned).mp ho
    exact Or.inl (huid ▸ owner)

theorem Effect.Private.deleted (v : View) (event : Event) :
    (v.withJob (remains v.lingering v.job) event).Private v := by
  refine .of_owners fun after ha => ?_
  obtain ⟨marked, hm, rfl⟩ := Option.map_eq_some_iff.mp ha
  unfold remains at hm
  split at hm
  · obtain ⟨before, hb, rfl⟩ := Option.map_eq_some_iff.mp hm
    exact ⟨before, hb, rfl⟩
  · cases hm

/-- An own change has the same effect wherever the same is seen. -/
theorem OwnChange.effect (h : OwnChange key v r) (hk : snapshotKey v.imageBuild = key) :
    ∃ e : Effect, e.Private v ∧ ∀ s, Sees key v s → e.Holds key s (s.after (some r)) := by
  cases h with
  | adds =>
    subst hk
    refine ⟨v.rewritten (v.imageBuild.written (Store.withFinalizer
      v.imageBuild.metadata.finalizerList ImageBuild.operatorFinalizer) "")
      (.finalizerAdded (snapshotKey v.imageBuild)), .of_same_job v _ _, fun s hs => ?_⟩
    rw [Store.after_of_success (.finalizerAdded hs.imageBuild fun _ => rfl)]
    exact hs.rewritten (by rfl) _
  | releases vacant =>
    subst hk
    by_cases hbare : v.imageBuild.isBeingDeleted ∧ (Store.withoutFinalizer
        v.imageBuild.metadata.finalizerList ImageBuild.operatorFinalizer).isEmpty
    · refine ⟨v.gone (.finalizerRemoved (snapshotKey v.imageBuild)), .gone v _, fun s hs => ?_⟩
      rw [Store.after_of_success (.released hs.imageBuild (fun _ => rfl) hbare.1 hbare.2)]
      exact hs.gone vacant _
    · refine ⟨v.rewritten (v.imageBuild.written (Store.withoutFinalizer
        v.imageBuild.metadata.finalizerList ImageBuild.operatorFinalizer) "")
        (.finalizerRemoved (snapshotKey v.imageBuild)), .of_same_job v _ _, fun s hs => ?_⟩
      rw [Store.after_of_success (.finalizerRemoved hs.imageBuild (fun _ => rfl) hbare)]
      exact hs.rewritten (by rfl) _
  | records status =>
    refine ⟨v.rewritten (v.imageBuild.patched status "") (.statusPatched key),
      .of_same_job v _ _, fun s hs => ?_⟩
    rw [Store.after_of_success (.statusPatched status hs.imageBuild)]
    exact hs.rewritten (by rfl) _
  | @creates job o vacant place owned owner =>
    refine ⟨v.withJob (some (job.accepted key.ns "")) (.jobCreated (jobKey key)),
      .created owned owner key.ns _, fun s hs => ?_⟩
    rw [Store.after_of_success (.jobCreated (by rw [place, hs.job, vacant])), place]
    exact hs.stocked (by rfl) _
  | deletes =>
    refine ⟨_, .deleted v (.jobDeleted (jobKey key)), fun s hs => ?_⟩
    rw [Store.after_of_success (.jobDeleted _)]
    exact hs.deleted _

/-- What an invocation sees decides its result, its change and the effect of that. -/
theorem reconcile_effect (settings : BuilderSettings) (now : Instant)
    (hk : snapshotKey v.imageBuild = key) :
    ∃ result change e, Foretold (Sees key v) (reconcile settings key now) result change ∧
      Effect.Private e v ∧ ∀ s, Sees key v s → e.Holds key s (s.after change) := by
  obtain ⟨result, change, hforetold, hown⟩ := reconcile_foreseen settings now hk
  cases change with
  | none =>
    exact ⟨result, none, v.unchanged, hforetold, .of_same_job v _ _, fun s hs => hs.unchanged⟩
  | some r =>
    obtain ⟨e, hprivate, heffect⟩ := (hown r rfl).effect hk
    exact ⟨result, some r, e, hforetold, hprivate, heffect⟩

end Controller

end ImageForge
