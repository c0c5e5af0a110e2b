import ImageForge.Cluster.Store
import ImageForge.Proofs.Cluster.Table

/-! What an answered call does to the cluster: a failure and a look change no object, and a change is
one entry in the list of events. -/
namespace ImageForge

namespace ImageBuild

variable {b b' : ImageBuild} {fs : List String} {v : String}

def written (b : ImageBuild) (finalizers : List String) (version : String) : ImageBuild :=
  { b with metadata := { b.metadata with
    finalizers := if finalizers.isEmpty then none else some finalizers
    resourceVersion := some version } }

def patched (b : ImageBuild) (status : ImageBuildStatus) (version : String) : ImageBuild :=
  { b with
    status := some status
    metadata := { b.metadata with resourceVersion := some version } }

@[simp]
theorem written_finalizerList : (b.written fs v).metadata.finalizerList = fs := by
  cases fs <;> rfl

theorem written_hasFinalizer :
    (b.written fs v).hasFinalizer = decide (operatorFinalizer ∈ fs) := by
  simp [hasFinalizer]

end ImageBuild

/-- The job as the cluster keeps it when it is created in a namespace. -/
def Job.accepted (job : Job) (ns version : String) : Job :=
  { job with metadata := { job.metadata with
    ns := some ns
    uid := some ("uid-job-" ++ ns ++ "-" ++ job.metadata.displayName)
    resourceVersion := some version } }

namespace Cluster

/-- What is recorded when a call succeeds; a look is not recorded. -/
def Request.event? : Request → Option Event
  | .getImageBuild _ | .getJob _ => none
  | .addFinalizer b _ => some (.finalizerAdded (snapshotKey b))
  | .removeFinalizer b _ => some (.finalizerRemoved (snapshotKey b))
  | .patchStatus k _ => some (.statusPatched k)
  | .createJob ns job => some (.jobCreated ⟨ns, job.metadata.displayName⟩)
  | .deleteJob k => some (.jobDeleted k)

/-- The image build that a call writes. -/
def Request.target? : Request → Option Key
  | .addFinalizer b _ | .removeFinalizer b _ => some (snapshotKey b)
  | .patchStatus k _ => some k
  | .getImageBuild _ | .getJob _ | .createJob _ _ | .deleteJob _ => none

/-- A call with its answer. -/
structure Exchange where
  request : Request
  answer : Answer request

def Exchange.event? : Exchange → Option Event
  | ⟨r, .ok _⟩ => r.event?
  | ⟨_, .error _⟩ => none

theorem Exchange.finalizerRemoved_inv {x : Exchange} {k : Key}
    (h : x.event? = some (.finalizerRemoved k)) :
    ∃ b f, snapshotKey b = k ∧ x = ⟨.removeFinalizer b f, .ok ()⟩ := by
  obtain ⟨r, a⟩ := x
  cases a with
  | error _ => cases h
  | ok x =>
    cases r with
    | removeFinalizer b f =>
      cases h
      exact ⟨b, f, rfl, rfl⟩
    | getImageBuild _ | getJob _ | addFinalizer _ _ | patchStatus _ _ | createJob _ _
    | deleteJob _ => cases h

namespace Store

variable {s t : Store} {r : Request} {a : Answer r} {k : Key}

/-- Image builds, jobs and recorded changes are the same. -/
structure SameObjects (s t : Store) : Prop where
  imageBuilds : t.imageBuilds = s.imageBuilds
  jobs : t.jobs = s.jobs
  events : t.events = s.events

theorem SameObjects.refl (s : Store) : s.SameObjects s := ⟨rfl, rfl, rfl⟩

theorem SameObjects.trans {u : Store} (h : s.SameObjects t) (h' : t.SameObjects u) :
    s.SameObjects u :=
  ⟨h'.imageBuilds.trans h.imageBuilds, h'.jobs.trans h.jobs, h'.events.trans h.events⟩

/-- The version that the next change gets. -/
def nextVersion (s : Store) : String := toString (s.version + 1)

def replaced (s : Store) (k : Key) (b : ImageBuild) : Store :=
  { s.bump.1 with imageBuilds := s.imageBuilds.put k b }

def removed (s : Store) (k : Key) (uid : Option String) : Store :=
  { s.bump.1 with imageBuilds := s.imageBuilds.erase k }.collectGarbage uid

def stocked (s : Store) (k : Key) (job : Job) : Store :=
  { s.bump.1 with jobs := s.jobs.put k job }

/-- The successful calls, with what they answer and leave behind. -/
inductive Success (s : Store) : (r : Request) → r.Reply → Store → Prop
  | imageBuildRead {k : Key} {found} (stored : s.imageBuilds.get? k = found) :
      Success s (.getImageBuild k) found s
  | jobRead {k : Key} {found} (stored : s.jobs.get? k = found) : Success s (.getJob k) found s
  | finalizerAdded {snap b f} (stored : s.imageBuilds.get? (snapshotKey snap) = some b)
      (current : snap.metadata.resourceVersion.isSome →
        b.metadata.resourceVersion = snap.metadata.resourceVersion) :
      Success s (.addFinalizer snap f) () ((s.replaced (snapshotKey snap)
        (b.written (withFinalizer snap.metadata.finalizerList f) s.nextVersion)).record
          (.finalizerAdded (snapshotKey snap)))
  | finalizerRemoved {snap b f} (stored : s.imageBuilds.get? (snapshotKey snap) = some b)
      (current : snap.metadata.resourceVersion.isSome →
        b.metadata.resourceVersion = snap.metadata.resourceVersion)
      (kept : ¬ (b.isBeingDeleted ∧ (withoutFinalizer snap.metadata.finalizerList f).isEmpty)) :
      Success s (.removeFinalizer snap f) () ((s.replaced (snapshotKey snap)
        (b.written (withoutFinalizer snap.metadata.finalizerList f) s.nextVersion)).record
          (.finalizerRemoved (snapshotKey snap)))
  | released {snap b f} (stored : s.imageBuilds.get? (snapshotKey snap) = some b)
      (current : snap.metadata.resourceVersion.isSome →
        b.metadata.resourceVersion = snap.metadata.resourceVersion)
      (deleted : b.isBeingDeleted)
      (bare : (withoutFinalizer snap.metadata.finalizerList f).isEmpty) :
      Success s (.removeFinalizer snap f) ()
        ((s.removed (snapshotKey snap) b.metadata.uid).record
          (.finalizerRemoved (snapshotKey snap)))
  | statusPatched {k : Key} {b} (status) (stored : s.imageBuilds.get? k = some b) :
      Success s (.patchStatus k status) ()
        ((s.replaced k (b.patched status s.nextVersion)).record (.statusPatched k))
  | jobCreated {ns job} (vacant : s.jobs.get? ⟨ns, job.metadata.displayName⟩ = none) :
      Success s (.createJob ns job) ()
        ((s.stocked ⟨ns, job.metadata.displayName⟩ (job.accepted ns s.nextVersion)).record
          (.jobCreated ⟨ns, job.metadata.displayName⟩))
  | jobDeleted (k : Key) : Success s (.deleteJob k) () ((s.deleteJob k).record (.jobDeleted k))

theorem withFinalizer_ne_nil (fs : List String) (f : String) : withFinalizer fs f ≠ [] := by
  unfold withFinalizer
  split
  next h => exact List.ne_nil_of_mem h
  next => simp

theorem mem_withFinalizer (fs : List String) (f : String) : f ∈ withFinalizer fs f := by
  unfold withFinalizer
  split
  next h => exact h
  next => simp

/-- Finalizers are written to the object as the snapshot saw it; the object goes when nothing holds
it any more. -/
theorem writeFinalizers_eq {snap b : ImageBuild} (hb : s.imageBuilds.get? (snapshotKey snap) = some b)
    (hv : snap.metadata.resourceVersion.isSome →
      b.metadata.resourceVersion = snap.metadata.resourceVersion) (fs : List String) :
    s.writeFinalizers snap fs =
      if b.isBeingDeleted ∧ fs.isEmpty then .ok (s.removed (snapshotKey snap) b.metadata.uid)
      else .ok (s.replaced (snapshotKey snap) (b.written fs s.nextVersion)) := by
  have hcurrent : ¬ (snap.metadata.resourceVersion.isSome ∧
      b.metadata.resourceVersion ≠ snap.metadata.resourceVersion) := fun h => h.2 (hv h.1)
  simp only [writeFinalizers, hb, if_neg hcurrent]
  rfl

theorem writeFinalizers_ok {snap : ImageBuild} {fs : List String}
    (h : s.writeFinalizers snap fs = .ok t) :
    ∃ b, s.imageBuilds.get? (snapshotKey snap) = some b ∧
      (snap.metadata.resourceVersion.isSome →
        b.metadata.resourceVersion = snap.metadata.resourceVersion) ∧
      ((b.isBeingDeleted ∧ fs.isEmpty ∧ t = s.removed (snapshotKey snap) b.metadata.uid) ∨
        (¬ (b.isBeingDeleted ∧ fs.isEmpty) ∧
          t = s.replaced (snapshotKey snap) (b.written fs s.nextVersion))) := by
  cases hb : s.imageBuilds.get? (snapshotKey snap) with
  | none => simp [writeFinalizers, hb] at h
  | some b =>
    have hv : snap.metadata.resourceVersion.isSome →
        b.metadata.resourceVersion = snap.metadata.resourceVersion := by
      intro hs
      refine Decidable.byContradiction fun hne => ?_
      simp only [writeFinalizers, hb, if_pos (And.intro hs hne)] at h
      cases h
    refine ⟨b, rfl, hv, ?_⟩
    rw [writeFinalizers_eq hb hv] at h
    split at h
    next hgone =>
      cases h
      exact Or.inl ⟨hgone.1, hgone.2, rfl⟩
    next hkept =>
      cases h
      exact Or.inr ⟨hkept, rfl⟩

theorem success_of_perform {x : r.Reply} (h : s.perform r = (.ok x, t)) : Success s r x t := by
  cases r with
  | getImageBuild k =>
    simp only [perform, Prod.mk.injEq, Except.ok.injEq] at h
    obtain ⟨rfl, rfl⟩ := h
    exact .imageBuildRead rfl
  | getJob k =>
    simp only [perform, Prod.mk.injEq, Except.ok.injEq] at h
    obtain ⟨rfl, rfl⟩ := h
    exact .jobRead rfl
  | addFinalizer snap f =>
    cases hw : s.writeFinalizers snap (withFinalizer snap.metadata.finalizerList f) with
    | error e => simp [perform, hw, perform.commit] at h
    | ok u =>
      simp only [perform, hw, perform.commit, Prod.mk.injEq] at h
      obtain ⟨-, rfl⟩ := h
      obtain ⟨b, hb, hv, ⟨_, hbare, _⟩ | ⟨-, rfl⟩⟩ := writeFinalizers_ok hw
      · exact absurd (List.isEmpty_iff.mp hbare) (withFinalizer_ne_nil _ f)
      · exact .finalizerAdded hb hv
  | removeFinalizer snap f =>
    cases hw : s.writeFinalizers snap (withoutFinalizer snap.metadata.finalizerList f) with
    | error e => simp [perform, hw, perform.commit] at h
    | ok u =>
      simp only [perform, hw, perform.commit, Prod.mk.injEq] at h
      obtain ⟨-, rfl⟩ := h
      obtain ⟨b, hb, hv, ⟨hd, hbare, rfl⟩ | ⟨hkept, rfl⟩⟩ := writeFinalizers_ok hw
      · exact .released hb hv hd hbare
      · exact .finalizerRemoved hb hv hkept
  | patchStatus k status =>
    cases hb : s.imageBuilds.get? k with
    | none => simp [perform, patchStatus, hb, perform.commit] at h
    | some b =>
      simp only [perform, patchStatus, hb, perform.commit, Prod.mk.injEq] at h
      obtain ⟨-, rfl⟩ := h
      exact .statusPatched status hb
  | createJob ns job =>
    cases hj : s.jobs.get? ⟨ns, job.metadata.displayName⟩ with
    | some j => simp [perform, createJob, hj, perform.commit] at h
    | none =>
      simp only [perform, createJob, hj, perform.commit, Prod.mk.injEq] at h
      obtain ⟨-, rfl⟩ := h
      exact .jobCreated hj
  | deleteJob k =>
    simp only [perform, perform.commit, Prod.mk.injEq] at h
    obtain ⟨-, rfl⟩ := h
    exact .jobDeleted k

theorem store_of_perform_error {e : ClusterError} (h : s.perform r = (.error e, t)) : t = s := by
  have hc : ∀ (ev : Event) (result : Except ClusterError Store),
      perform.commit s ev result = (.error e, t) → t = s := by
    intro ev result hc
    cases result with
    | ok u => simp [perform.commit] at hc
    | error e' =>
      simp only [perform.commit, Prod.mk.injEq] at hc
      exact hc.2.symm
  cases r with
  | getImageBuild _ | getJob _ => simp [perform] at h
  | addFinalizer _ _ | removeFinalizer _ _ | patchStatus _ _ | createJob _ _ => exact hc _ _ h
  | deleteJob _ => simp [perform, perform.commit] at h

/-- A failed call changes no object; any other is one of the successful ones. -/
theorem answer_cases (h : s.answer r = some (a, t)) :
    (∃ e, a = .error e ∧ s.SameObjects t) ∨ ∃ x, a = .ok x ∧ Success s r x t := by
  simp only [answer] at h
  split at h
  · cases h
  · split at h
    next f _ =>
      cases h
      exact Or.inl ⟨f.toError, rfl, rfl, rfl, rfl⟩
    next =>
      simp only [Option.some.injEq] at h
      cases a with
      | error e =>
        rw [store_of_perform_error h]
        exact Or.inl ⟨e, rfl, .refl s⟩
      | ok x => exact Or.inr ⟨x, rfl, success_of_perform h⟩

@[simp]
theorem collectGarbage_imageBuilds (uid : Option String) :
    (s.collectGarbage uid).imageBuilds = s.imageBuilds := by
  cases uid <;> rfl

@[simp]
theorem collectGarbage_events (uid : Option String) :
    (s.collectGarbage uid).events = s.events := by
  cases uid <;> rfl

@[simp]
theorem deleteJob_imageBuilds (k : Key) : (s.deleteJob k).imageBuilds = s.imageBuilds := by
  unfold deleteJob
  split
  · split <;> rfl
  · rfl

@[simp]
theorem deleteJob_events (k : Key) : (s.deleteJob k).events = s.events := by
  unfold deleteJob
  split
  · split <;> rfl
  · rfl

theorem Success.events {x : r.Reply} (h : Success s r x t) :
    t.events = s.events ++ r.event?.toList := by
  cases h <;> simp [Request.event?, replaced, removed, stocked, record, bump]

theorem Success.imageBuilds_of_ne {x : r.Reply} (h : Success s r x t) (hk : r.target? ≠ some k) :
    t.imageBuilds.get? k = s.imageBuilds.get? k := by
  cases h with
  | imageBuildRead _ | jobRead _ => rfl
  | finalizerAdded _ _ | finalizerRemoved _ _ _ | statusPatched _ _ =>
    exact Table.get?_put_of_ne (fun he => hk (congrArg some he.symm)) _ _
  | released _ _ _ _ =>
    simp only [removed, record, collectGarbage_imageBuilds]
    exact Table.get?_erase_of_ne (fun he => hk (congrArg some he.symm)) _
  | jobCreated _ => rfl
  | jobDeleted _ => simp [record]

theorem answer_events (h : s.answer r = some (a, t)) :
    t.events = s.events ++ (Exchange.event? ⟨r, a⟩).toList := by
  obtain ⟨e, rfl, hs⟩ | ⟨x, rfl, hs⟩ := answer_cases h
  · simp [Exchange.event?, hs.events]
  · exact hs.events

theorem answer_sameObjects (h : s.answer r = some (a, t))
    (hx : Exchange.event? ⟨r, a⟩ = none) : s.SameObjects t := by
  obtain ⟨e, rfl, hs⟩ | ⟨x, rfl, hs⟩ := answer_cases h
  · exact hs
  · cases hs with
    | imageBuildRead _ | jobRead _ => exact .refl s
    | finalizerAdded _ _ | finalizerRemoved _ _ _ | released _ _ _ _ | statusPatched _ _
    | jobCreated _ | jobDeleted _ => cases hx

theorem answer_imageBuilds_of_ne (h : s.answer r = some (a, t)) (hk : r.target? ≠ some k) :
    t.imageBuilds.get? k = s.imageBuilds.get? k := by
  obtain ⟨e, rfl, hs⟩ | ⟨x, rfl, hs⟩ := answer_cases h
  · rw [hs.imageBuilds]
  · exact hs.imageBuilds_of_ne hk

/-- Every image build is stored under the namespace and the name of its own metadata. -/
def WellKeyed (s : Store) : Prop :=
  ∀ k b, s.imageBuilds.get? k = some b → snapshotKey b = k

theorem WellKeyed.empty : ({} : Store).WellKeyed := by
  intro k b hb
  cases hb

theorem WellKeyed.of_put {b : ImageBuild} (h : s.WellKeyed)
    (ht : t.imageBuilds = s.imageBuilds.put k b) (hb : snapshotKey b = k) : t.WellKeyed := by
  intro k' b' hg
  rw [ht, Table.get?_put] at hg
  split at hg
  next hk =>
    cases hg
    exact hb.trans hk.symm
  next => exact h k' b' hg

theorem WellKeyed.of_erase (h : s.WellKeyed) (ht : t.imageBuilds = s.imageBuilds.erase k) :
    t.WellKeyed := by
  intro k' b' hg
  rw [ht, Table.get?_erase] at hg
  split at hg
  · cases hg
  · exact h k' b' hg

theorem WellKeyed.of_eq (h : s.WellKeyed) (ht : t.imageBuilds = s.imageBuilds) : t.WellKeyed := by
  intro k' b' hg
  rw [ht] at hg
  exact h k' b' hg

theorem WellKeyed.added (h : s.WellKeyed) (b : ImageBuild) : (s.addImageBuild b).WellKeyed :=
  h.of_put rfl rfl

theorem WellKeyed.answer (h : s.WellKeyed) (ha : s.answer r = some (a, t)) : t.WellKeyed := by
  obtain ⟨e, rfl, hs⟩ | ⟨x, rfl, hs⟩ := answer_cases ha
  · exact h.of_eq hs.imageBuilds
  · cases hs with
    | imageBuildRead _ | jobRead _ => exact h
    | finalizerAdded stored _ | finalizerRemoved stored _ _ | statusPatched _ stored =>
      have hk := h _ _ stored
      exact h.of_put rfl hk
    | released _ _ _ _ => exact h.of_erase (collectGarbage_imageBuilds _)
    | jobCreated _ => exact h.of_eq rfl
    | jobDeleted _ => exact h.of_eq (deleteJob_imageBuilds _)

end Store

end Cluster

end ImageForge
