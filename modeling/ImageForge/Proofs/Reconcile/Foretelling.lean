import ImageForge.Proofs.Cluster.Turns
import ImageForge.Proofs.Reconcile.Stage

/-! What an invocation will do, foretold from what it sees of its image build and of its job. -/
namespace ImageForge.Controller

open Cluster Reconciliation

/-- What the invocation for an image build sees: the image build and its builder job, if there is one;
and whether jobs linger when they are deleted. -/
structure View where
  imageBuild : ImageBuild
  job : Option Job
  lingering : Bool

structure Sees (key : Key) (v : View) (s : Store) : Prop where
  imageBuild : s.imageBuilds.get? key = some v.imageBuild
  job : s.jobs.get? (jobKey key) = v.job
  lingering : s.holdJobDeletions = v.lingering
  distinct : s.jobs.Distinct

/-- The changes that an invocation makes for what it sees. -/
inductive OwnChange (key : Key) (v : View) : Request → Prop
  | adds : OwnChange key v (.addFinalizer v.imageBuild ImageBuild.operatorFinalizer)
  | releases (vacant : v.job = none) :
      OwnChange key v (.removeFinalizer v.imageBuild ImageBuild.operatorFinalizer)
  | records (status : ImageBuildStatus) : OwnChange key v (.patchStatus key status)
  | creates {job : Job} {o : OwnerReference} (vacant : v.job = none)
      (place : (⟨key.ns, job.metadata.displayName⟩ : Key) = jobKey key)
      (owned : job.metadata.ownerReferences = some [o])
      (owner : v.imageBuild.metadata.uid = some o.uid) :
      OwnChange key v (.createJob key.ns job)
  | deletes : OwnChange key v (.deleteJob (jobKey key))

/-- A program is foretold from what is seen, and its change is an own one. -/
def Foresees (key : Key) (v : View) (p : Reconciliation) : Prop :=
  ∃ result change, Foretold (Sees key v) p result change ∧
    ∀ r, change = some r → OwnChange key v r

variable {key : Key} {v : View} {r : Request} {settings : BuilderSettings} {now : Instant}
  {current desired : ImageBuildStatus} {result : Except ControllerError Verdict}

theorem OwnChange.possible (h : OwnChange key v r) (hk : snapshotKey v.imageBuild = key) :
    ∃ x : r.Reply, ∀ s, Sees key v s → ∃ t, Store.Success s r x t := by
  cases h with
  | adds =>
    subst hk
    exact ⟨(), fun s hs => ⟨_, .finalizerAdded hs.imageBuild fun _ => rfl⟩⟩
  | releases _ =>
    subst hk
    refine ⟨(), fun s hs => ?_⟩
    by_cases hbare : v.imageBuild.isBeingDeleted ∧ (Store.withoutFinalizer
        v.imageBuild.metadata.finalizerList ImageBuild.operatorFinalizer).isEmpty
    · exact ⟨_, .released hs.imageBuild (fun _ => rfl) hbare.1 hbare.2⟩
    · exact ⟨_, .finalizerRemoved hs.imageBuild (fun _ => rfl) hbare⟩
  | records status => exact ⟨(), fun s hs => ⟨_, .statusPatched status hs.imageBuild⟩⟩
  | creates vacant place _ _ =>
    refine ⟨(), fun s hs => ⟨_, .jobCreated ?_⟩⟩
    rw [place, hs.job, vacant]
  | deletes => exact ⟨(), fun s _ => ⟨_, .jobDeleted _⟩⟩

namespace Foresees

theorem done (result : Except ControllerError Verdict) : Foresees key v (.done result) :=
  ⟨result, none, .ended result, fun _ h => by cases h⟩

theorem look {next : Answer r → Reconciliation} (x : r.Reply)
    (same : ∀ s, Sees key v s → Store.Success s r x s) (h : Foresees key v (next (.ok x))) :
    Foresees key v (.call r next) := by
  obtain ⟨result, change, hp, hown⟩ := h
  exact ⟨result, change, .look x same hp, hown⟩

theorem readImageBuild {next : Answer (.getImageBuild key) → Reconciliation}
    (h : Foresees key v (next (.ok (some v.imageBuild)))) :
    Foresees key v (.call (.getImageBuild key) next) :=
  look (r := .getImageBuild key) _ (fun _ hs => .imageBuildRead hs.imageBuild) h

theorem readJob {next : Answer (.getJob (jobKey key)) → Reconciliation}
    (h : Foresees key v (next (.ok v.job))) :
    Foresees key v (.call (.getJob (jobKey key)) next) :=
  look (r := .getJob (jobKey key)) _ (fun _ hs => .jobRead hs.job) h

theorem change {next : Answer r → Reconciliation} (own : OwnChange key v r)
    (hk : snapshotKey v.imageBuild = key) (last : ∀ x, next (.ok x) = .done result) :
    Foresees key v (.call r next) := by
  obtain ⟨x, possible⟩ := own.possible hk
  exact ⟨result, some r, .change x possible (last x), fun _ h => Option.some.inj h ▸ own⟩

theorem persist (hk : snapshotKey v.imageBuild = key) (current desired : ImageBuildStatus)
    (result : Except ControllerError Verdict) :
    Foresees key v (persist key current desired (.done result)) := by
  unfold Reconciliation.persist
  split
  · exact done result
  · exact change (.records desired) hk fun _ => rfl

end Foresees

theorem reconcileDeleted_foreseen (hk : snapshotKey v.imageBuild = key) :
    Foresees key v (reconcileDeleted key v.imageBuild) := by
  unfold reconcileDeleted
  split
  · exact .done _
  · refine .readJob ?_
    cases hj : v.job with
    | none => exact .change (.releases hj) hk fun _ => rfl
    | some job =>
      dsimp only
      split
      · exact .done _
      · exact .change .deletes hk fun _ => rfl

theorem startJob_foreseen (hk : snapshotKey v.imageBuild = key) (vacant : v.job = none)
    (current status : ImageBuildStatus) :
    Foresees key v (startJob settings key v.imageBuild current status now) := by
  unfold startJob
  cases hjob : ownedBuilderJob v.imageBuild settings with
  | error e => exact .persist hk _ _ _
  | ok job =>
    have hplace := ownedBuilderJob_key hjob hk
    obtain ⟨_, _, uid, -, -, huid, hm⟩ := ownedBuilderJob_metadata hjob
    exact .change (.creates vacant hplace (by rw [hm]) huid) hk fun _ => rfl

theorem reconcileGuarded_foreseen (hk : snapshotKey v.imageBuild = key) :
    Foresees key v (reconcileGuarded settings key v.imageBuild now) := by
  unfold reconcileGuarded
  refine .readJob ?_
  cases hj : v.job with
  | none =>
    dsimp only
    split
    · exact .persist hk _ _ _
    · exact startJob_foreseen hk hj _ _
  | some job =>
    dsimp only
    split <;> exact .persist hk _ _ _

/-- The whole invocation is foretold from what it sees. -/
theorem reconcile_foreseen (settings : BuilderSettings) (now : Instant)
    (hk : snapshotKey v.imageBuild = key) : Foresees key v (reconcile settings key now) := by
  refine .readImageBuild ?_
  dsimp only
  split
  · exact reconcileDeleted_foreseen hk
  · split
    · exact .change .adds hk fun _ => rfl
    · exact reconcileGuarded_foreseen hk

end ImageForge.Controller
