import ImageForge.Proofs.Cluster.Departure
import ImageForge.Proofs.Cluster.History
import ImageForge.Proofs.Reconcile.Release

/-! What others may do to a cluster while an image build is being deleted. -/
namespace ImageForge.Controller

open Cluster

variable {s t : Store} {key : Key} {b : ImageBuild}

/-- The calls of others that leave the way of an image build alone: they write no finalizer of the
controller, write other finalizers from what is stored, and do not create the builder job. -/
structure Harmless (key : Key) (s : Store) (r : Request) : Prop where
  guard : r.target? = some key → (∃ status, r = .patchStatus key status) ∨
    ∃ b edit, s.imageBuilds.get? key = some b ∧
      edit.finalizer ≠ ImageBuild.operatorFinalizer ∧ r = Edit.request b edit
  noJob : ∀ ns job, r = .createJob ns job →
    (⟨ns, job.metadata.displayName⟩ : Key) ≠ jobKey key

/-- What happens between two looks at an image build that is being deleted: anything but a new image
build under its key, a new builder job, and failures. -/
inductive Meanwhile (key : Key) (s : Store) : Store → Prop
  | outside {t : Store} (change : Outside (fun _ b => addedKey b ≠ key) s t) (quiet : t.Quiet) :
      Meanwhile key s t
  | call {r : Request} {a : Answer r} {t : Store} (harmless : Harmless key s r)
      (answer : s.answer r = some (a, t)) : Meanwhile key s t

theorem Meanwhile.deletionsCompleted (hq : s.Quiet) : Meanwhile key s s.completeJobDeletions :=
  .outside (.deletionsCompleted s) ⟨hq.failures, hq.stalled⟩

/-- Who holds the image build of a key, and whether it is being deleted, stays as it is; an image build
that the controller holds stays. -/
structure Spares (key : Key) (s t : Store) : Prop where
  found : ∀ b', t.imageBuilds.get? key = some b' → ∃ b, s.imageBuilds.get? key = some b ∧
    (b.isBeingDeleted → b'.isBeingDeleted) ∧ b'.hasFinalizer = b.hasFinalizer
  stays : ∀ b, s.imageBuilds.get? key = some b → b.hasFinalizer →
    t.imageBuilds.get? key ≠ none

theorem Spares.of_get?_eq (h : t.imageBuilds.get? key = s.imageBuilds.get? key) :
    Spares key s t where
  found b' hb' := ⟨b', h ▸ hb', id, rfl⟩
  stays b hb _ := by
    rw [h, hb]
    exact Option.some_ne_none b

theorem Spares.of_put {b' : ImageBuild} (h : t.imageBuilds = s.imageBuilds.put key b')
    (hb : s.imageBuilds.get? key = some b) (hd : b.isBeingDeleted → b'.isBeingDeleted)
    (hf : b'.hasFinalizer = b.hasFinalizer) : Spares key s t where
  found c hc := by
    rw [h, Table.get?_put_self] at hc
    cases hc
    exact ⟨b, hb, hd, hf⟩
  stays _ _ _ := by
    rw [h, Table.get?_put_self]
    exact Option.some_ne_none b'

theorem Spares.of_erase (h : t.imageBuilds = s.imageBuilds.erase key)
    (hb : s.imageBuilds.get? key = some b) (hf : ¬ b.hasFinalizer) : Spares key s t where
  found c hc := by
    rw [h, Table.get?_erase_self] at hc
    cases hc
  stays c hc hheld := by
    cases hc.symm.trans hb
    exact absurd hheld hf

theorem Spares.doomed (h : Spares key s t) (hb : Doomed s key b) : ∃ b', Doomed t key b' := by
  obtain ⟨b', hb'⟩ := Option.ne_none_iff_exists'.mp (h.stays b hb.stored hb.held)
  obtain ⟨c, hc, hd, hf⟩ := h.found b' hb'
  cases hb.stored.symm.trans hc
  exact ⟨b', hb', hd hb.deleted, hf.trans hb.held⟩

theorem Spares.letGo (h : Spares key s t) (hs : LetGo s key) : LetGo t key := by
  intro b' hb'
  obtain ⟨b, hb, hd, hf⟩ := h.found b' hb'
  exact ⟨hd (hs b hb).1, hf ▸ (hs b hb).2⟩

theorem Spares.outside (h : Outside (fun _ b => addedKey b ≠ key) s t) : Spares key s t := by
  cases h with
  | added c new => exact .of_get?_eq (Table.get?_put_of_ne new.symm _ _)
  | marked k =>
    simp only [Store.markForDeletion]
    split
    · exact .of_get?_eq rfl
    next c hc =>
      by_cases hk : k = key
      · subst hk
        split
        next hbare =>
          have hnone : c.metadata.finalizerList = [] := List.isEmpty_iff.mp hbare
          refine .of_erase (Store.collectGarbage_imageBuilds _) hc fun hheld => ?_
          simp [ImageBuild.hasFinalizer, hnone] at hheld
        next => exact .of_put rfl hc (fun _ => rfl) rfl
      · have hne : key ≠ k := fun he => hk he.symm
        split
        · refine .of_get?_eq ?_
          rw [Store.collectGarbage_imageBuilds]
          exact Table.get?_erase_of_ne hne _
        · exact .of_get?_eq (Table.get?_put_of_ne hne _ _)
  | jobReported k status =>
    simp only [Store.setJobStatus]
    split <;> exact .of_get?_eq rfl
  | jobDeleted k =>
    refine .of_get?_eq ?_
    simp [Store.record]
  | jobVanished _ | deletionsHeld _ | deletionsCompleted | failing _ _ | stalling _ =>
    exact .of_get?_eq rfl

theorem hasFinalizer_edited {edit : Edit}
    (hf : edit.finalizer ≠ ImageBuild.operatorFinalizer) (b : ImageBuild) (version : String) :
    (b.written (edit.apply b.metadata.finalizerList) version).hasFinalizer = b.hasFinalizer := by
  rw [ImageBuild.written_hasFinalizer, ImageBuild.hasFinalizer, decide_eq_decide]
  exact Edit.mem_apply edit _ hf.symm

theorem Harmless.spares {r : Request} {x : r.Reply} (h : Harmless key s r)
    (hs : Store.Success s r x t) (hk : s.WellKeyed) : Spares key s t := by
  by_cases ht : r.target? = some key
  · obtain ⟨status, rfl⟩ | ⟨b, edit, hb, hforeign, rfl⟩ := h.guard ht
    · cases hs with
      | statusPatched _ stored => exact .of_put rfl stored id rfl
    · obtain rfl := hk key b hb
      cases edit with
      | add f =>
        cases hs with
        | finalizerAdded stored _ =>
          cases stored.symm.trans hb
          exact .of_put rfl hb id (hasFinalizer_edited hforeign b s.nextVersion)
      | remove f =>
        cases hs with
        | finalizerRemoved stored _ _ =>
          cases stored.symm.trans hb
          exact .of_put rfl hb id (hasFinalizer_edited hforeign b s.nextVersion)
        | released stored _ _ bare =>
          cases stored.symm.trans hb
          refine .of_erase (Store.collectGarbage_imageBuilds _) hb fun hheld => ?_
          have hedited := hasFinalizer_edited hforeign b s.nextVersion
          have hnone : Edit.apply (.remove f) b.metadata.finalizerList = [] :=
            List.isEmpty_iff.mp bare
          rw [ImageBuild.written_hasFinalizer, hnone, hheld] at hedited
          cases hedited
  · exact .of_get?_eq (hs.imageBuilds_of_ne ht)

/-- Nothing fails on the cluster, and its objects are stored under their own keys, one under each. -/
structure Sound (s : Store) : Prop where
  quiet : s.Quiet
  wellKeyed : s.WellKeyed
  jobs : s.jobs.Distinct

theorem Sound.success {r : Request} {x : r.Reply} (h : Sound s) (hs : Store.Success s r x t) :
    Sound t where
  quiet := h.quiet.of_success hs
  wellKeyed := h.wellKeyed.answer (h.quiet.answer_eq hs)
  jobs := by
    obtain hlost | ⟨ns, job, -, hjobs⟩ := hs.dwindles
    · exact hlost.distinct h.jobs
    · rw [hjobs]
      exact h.jobs.put

/-- The way of an image build goes on where it was, or further. -/
structure Undisturbed (key : Key) (s t : Store) : Prop where
  sound : Sound t
  spares : Spares key s t
  job : ∀ job', t.jobs.get? (jobKey key) = some job' → ∃ job,
    s.jobs.get? (jobKey key) = some job ∧
      (job.metadata.isBeingDeleted → job'.metadata.isBeingDeleted)

theorem Meanwhile.undisturbed (h : Meanwhile key s t) (hs : Sound s) : Undisturbed key s t := by
  cases h with
  | outside change quiet =>
    have hlost := change.dwindles
    exact {
      sound := ⟨quiet, hs.wellKeyed.outside change, hlost.distinct hs.jobs⟩
      spares := .outside change
      job := fun _ hj => hlost.found hs.jobs hj }
  | @call r a t harmless answer =>
    rw [Store.answer_of_quiet hs.quiet, Option.some.injEq] at answer
    cases a with
    | error e =>
      rw [Store.store_of_perform_error answer]
      exact ⟨hs, .of_get?_eq rfl, fun job hj => ⟨job, hj, id⟩⟩
    | ok x =>
      have hsuccess := Store.success_of_perform answer
      refine ⟨hs.success hsuccess, harmless.spares hsuccess hs.wellKeyed, fun job' hj => ?_⟩
      obtain hlost | ⟨ns, job, hr, hjobs⟩ := hsuccess.dwindles
      · exact hlost.found hs.jobs hj
      · rw [hjobs, Table.get?_put_of_ne (harmless.noJob ns job hr).symm] at hj
        exact ⟨job', hj, id⟩

end ImageForge.Controller
