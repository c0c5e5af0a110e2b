import ImageForge.Proofs.Reconcile.Convergence

/-! What one look does about the job and the finalizer of an image build that is being deleted. -/
namespace ImageForge.Controller

open Cluster Reconciliation

/-- An image build that is being deleted, and that the controller still holds. -/
structure Doomed (s : Store) (key : Key) (b : ImageBuild) : Prop where
  stored : s.imageBuilds.get? key = some b
  deleted : b.isBeingDeleted
  held : b.hasFinalizer

/-- The image build of a key is gone, or it is being deleted and others hold it. -/
def LetGo (s : Store) (key : Key) : Prop :=
  ∀ b, s.imageBuilds.get? key = some b → b.isBeingDeleted ∧ ¬ b.hasFinalizer

/-- What the release of an image build does: its other finalizers stay in their order, and when there
is none the object goes, with the jobs of its uid. -/
structure Release (s : Store) (key : Key) (b : ImageBuild) (uid : String) (t : Store) : Prop where
  events : t.events = s.events ++ [.finalizerRemoved key]
  others : ∀ k ≠ key, t.imageBuilds.get? k = s.imageBuilds.get? k
  gone : b.metadata.finalizerList.filter (· ≠ ImageBuild.operatorFinalizer) = [] →
    t.imageBuilds.get? key = none ∧ t.jobs = s.jobs.keep (!·.isOwnedBy uid)
  kept : b.metadata.finalizerList.filter (· ≠ ImageBuild.operatorFinalizer) ≠ [] →
    t.jobs = s.jobs ∧ ∃ c, t.imageBuilds.get? key = some c ∧
      c.metadata.finalizerList =
        b.metadata.finalizerList.filter (· ≠ ImageBuild.operatorFinalizer) ∧
      c.spec = b.spec ∧ c.status = b.status

variable {s t : Store} {key : Key} {b : ImageBuild} {job : Job} {settings : BuilderSettings}
  {now : Instant} {uid : String}

theorem Doomed.ends_standing (h : Doomed s key b) (hq : s.Quiet)
    (hj : s.jobs.get? (jobKey key) = some job) (standing : ¬ job.metadata.isBeingDeleted) :
    Ends s (reconcile settings key now) (.ok { action := .requeue terminationPoll })
      ((s.deleteJob (jobKey key)).record (.jobDeleted (jobKey key))) := by
  refine ends_read hq h.stored ?_
  rw [reconcileRead, if_pos h.deleted, reconcileDeleted, if_neg (by simpa using h.held)]
  refine .call hq (.jobRead hj) ?_
  simp only [if_neg standing]
  exact .call hq (.jobDeleted (jobKey key)) (ends_done_iff.mpr ⟨rfl, rfl⟩)

theorem Doomed.ends_terminating (h : Doomed s key b) (hq : s.Quiet)
    (hj : s.jobs.get? (jobKey key) = some job) (terminating : job.metadata.isBeingDeleted) :
    Ends s (reconcile settings key now) (.ok { action := .requeue terminationPoll }) s := by
  refine ends_read hq h.stored ?_
  rw [reconcileRead, if_pos h.deleted, reconcileDeleted, if_neg (by simpa using h.held)]
  refine .call hq (.jobRead hj) ?_
  simp only [if_pos terminating]
  exact ends_done_iff.mpr ⟨rfl, rfl⟩

theorem Doomed.removable (h : Doomed s key b) (hk : snapshotKey b = key) :
    ∃ t, Store.Success s (.removeFinalizer b ImageBuild.operatorFinalizer) () t := by
  subst hk
  by_cases hbare : (Store.withoutFinalizer b.metadata.finalizerList
      ImageBuild.operatorFinalizer).isEmpty
  · exact ⟨_, .released h.stored (fun _ => rfl) h.deleted hbare⟩
  · exact ⟨_, .finalizerRemoved h.stored (fun _ => rfl) fun hgone => hbare hgone.2⟩

theorem Doomed.ends_jobless (h : Doomed s key b) (hq : s.Quiet)
    (hj : s.jobs.get? (jobKey key) = none)
    (hs : Store.Success s (.removeFinalizer b ImageBuild.operatorFinalizer) () t) :
    Ends s (reconcile settings key now) (.ok { action := .awaitChange, released := true }) t := by
  refine ends_read hq h.stored ?_
  rw [reconcileRead, if_pos h.deleted, reconcileDeleted, if_neg (by simpa using h.held)]
  refine .call hq (.jobRead hj) ?_
  exact .call hq hs (ends_done_iff.mpr ⟨rfl, rfl⟩)

theorem Doomed.release (h : Doomed s key b) (hk : snapshotKey b = key)
    (hu : b.metadata.uid = some uid)
    (hs : Store.Success s (.removeFinalizer b ImageBuild.operatorFinalizer) () t) :
    Release s key b uid t := by
  subst hk
  have hothers : ∀ k ≠ snapshotKey b, t.imageBuilds.get? k = s.imageBuilds.get? k :=
    fun k hne => hs.imageBuilds_of_ne fun he => hne (Option.some.inj he).symm
  have hevents := hs.events
  cases hs with
  | @released _ c _ stored _ _ bare =>
    cases stored.symm.trans h.stored
    have hnone := List.isEmpty_iff.mp bare
    refine ⟨hevents, hothers, fun _ => ⟨?_, ?_⟩, fun hne => absurd hnone hne⟩
    · simp [Store.removed, Store.record]
    · rw [hu]
      rfl
  | @finalizerRemoved _ c _ stored _ kept =>
    cases stored.symm.trans h.stored
    refine ⟨hevents, hothers, fun hnone => ?_, fun _ => ⟨rfl, ?_⟩⟩
    · exact absurd ⟨h.deleted, List.isEmpty_iff.mpr hnone⟩ kept
    · exact ⟨_, Table.get?_put_self _ _ _, ImageBuild.written_finalizerList, rfl, rfl⟩

/-- A released image build is gone, or others hold it. -/
theorem Doomed.letGo (h : Doomed s key b) (hk : snapshotKey b = key)
    (hs : Store.Success s (.removeFinalizer b ImageBuild.operatorFinalizer) () t) :
    LetGo t key := by
  subst hk
  intro c hc
  cases hs with
  | released _ _ _ _ =>
    simp [Store.removed, Store.record] at hc
  | finalizerRemoved stored _ _ =>
    cases stored.symm.trans h.stored
    cases (Table.get?_put_self _ _ _).symm.trans hc
    refine ⟨h.deleted, ?_⟩
    simp [ImageBuild.written_hasFinalizer, Store.withoutFinalizer]

theorem LetGo.idle (h : LetGo s key) (settings : BuilderSettings) (now : Instant) :
    Idle s (reconcile settings key now) := by
  cases hb : s.imageBuilds.get? key with
  | none => exact (AtRest.missing hb).idle settings now
  | some b => exact (AtRest.released hb (h b hb).1 (h b hb).2).idle settings now

end ImageForge.Controller
