import ImageForge.Proofs.Cluster.Lineage
import ImageForge.Proofs.Reconcile.Creation

/-! Whom the builder jobs belong to. Every job that is stored has its image build, which stays guarded
as long as the job is there. -/
namespace ImageForge

namespace Cluster

/-- An image build may be added where none is stored, under a uid of its own, and not as one that is
already being deleted. -/
structure Admitted (s : Store) (b : ImageBuild) : Prop where
  unused : Unused s b
  alive : ¬ b.isBeingDeleted
  distinct : ∀ k c, s.imageBuilds.get? k = some c → c.metadata.uid ≠ some (addedUid b)

def Store.DistinctUids (s : Store) : Prop :=
  ∀ k k' b b' uid, s.imageBuilds.get? k = some b → s.imageBuilds.get? k' = some b' →
    b.metadata.uid = some uid → b'.metadata.uid = some uid → k = k'

variable {admits : Store → ImageBuild → Prop} {s t : Store}

theorem Store.DistinctUids.of_noNewImageBuild (h : s.DistinctUids)
    (ht : s.NoNewImageBuild t) : t.DistinctUids := by
  intro k k' b b' uid hb hb' hu hu'
  obtain ⟨c, hc, hcu⟩ := ht k b hb
  obtain ⟨c', hc', hcu'⟩ := ht k' b' hb'
  exact h k k' c c' uid hc hc' (hcu.trans hu) (hcu'.trans hu')

theorem Outside.noNewImageBuild (h : Outside admits s t) :
    s.NoNewImageBuild t ∨ ∃ b, admits s b ∧ t = s.addImageBuild b := by
  cases h with
  | added b new => exact Or.inr ⟨b, new, rfl⟩
  | marked key =>
    refine Or.inl ?_
    simp only [Store.markForDeletion]
    split
    · exact .of_eq rfl
    next b hb =>
      split
      · exact .of_erase (Store.collectGarbage_imageBuilds _)
      · exact .of_put rfl hb rfl
  | jobReported key status =>
    refine Or.inl ?_
    simp only [Store.setJobStatus]
    split <;> exact .of_eq rfl
  | jobDeleted key => exact Or.inl (.of_eq (Store.deleteJob_imageBuilds key))
  | jobVanished _ | deletionsHeld _ | deletionsCompleted | failing _ _ | stalling _ =>
    exact Or.inl (.of_eq rfl)

theorem Outside.noNewJob (h : Outside admits s t) : s.NoNewJob t := by
  cases h with
  | marked key =>
    simp only [Store.markForDeletion]
    split
    · exact .of_eq rfl
    · split
      · exact Store.collectGarbage_noNewJob _ _
      · exact .of_eq rfl
  | jobReported key status =>
    simp only [Store.setJobStatus]
    split
    · exact .of_eq rfl
    next job hj => exact .of_put rfl hj rfl
  | jobVanished _ => exact .of_erase rfl
  | jobDeleted key => exact Store.deleteJob_noNewJob s key
  | deletionsCompleted => exact .of_keep (p := (!·.metadata.isBeingDeleted)) rfl
  | added _ _ | deletionsHeld _ | failing _ _ | stalling _ => exact .of_eq rfl

theorem Outside.events (h : Outside admits s t) :
    t.events = s.events ∨ ∃ k, t.events = s.events ++ [.jobDeleted k] := by
  cases h with
  | marked key =>
    refine Or.inl ?_
    simp only [Store.markForDeletion]
    split
    · rfl
    · split
      · exact Store.collectGarbage_events _
      · rfl
  | jobReported key status =>
    refine Or.inl ?_
    simp only [Store.setJobStatus]
    split <;> rfl
  | jobDeleted key => exact Or.inr ⟨key, congrArg (· ++ _) (Store.deleteJob_events key)⟩
  | added _ _ | jobVanished _ | deletionsHeld _ | deletionsCompleted | failing _ _ | stalling _ =>
    exact Or.inl rfl

theorem Store.DistinctUids.added {b : ImageBuild} (h : s.DistinctUids) (hb : Admitted s b) :
    (s.addImageBuild b).DistinctUids := by
  have hcases : ∀ k c, (s.addImageBuild b).imageBuilds.get? k = some c →
      k = addedKey b ∧ c.metadata.uid = some (addedUid b) ∨ s.imageBuilds.get? k = some c := by
    intro k c hc
    rw [Store.addImageBuild_imageBuilds, Table.get?_put] at hc
    split at hc
    next hk =>
      cases hc
      exact Or.inl ⟨hk, rfl⟩
    next => exact Or.inr hc
  intro k k' c c' uid hc hc' hu hu'
  obtain ⟨rfl, hnew⟩ | hold := hcases k c hc <;> obtain ⟨rfl, hnew'⟩ | hold' := hcases k' c' hc'
  · rfl
  · exact absurd (hu'.trans (hu.symm.trans hnew)) (hb.distinct k' c' hold')
  · exact absurd (hu.trans (hu'.symm.trans hnew')) (hb.distinct k c hold)
  · exact h k k' c c' uid hold hold' hu hu'

theorem Store.DistinctUids.outside (h : s.DistinctUids) (ho : Outside Admitted s t) :
    t.DistinctUids := by
  obtain hold | ⟨b, hb, rfl⟩ := ho.noNewImageBuild
  · exact h.of_noNewImageBuild hold
  · exact h.added hb

end Cluster

namespace Controller

open Cluster

/-- A job that is stored has its image build: one of the same namespace, by whose name it is named,
whose uid it bears as that of its only owner, and which carries the finalizer. -/
def Owned (s : Store) (k : Key) (job : Job) : Prop :=
  ∃ key b o, s.imageBuilds.get? key = some b ∧ b.hasFinalizer ∧ k = jobKey key ∧
    job.metadata.name = some (builderJobName key.name) ∧ job.metadata.ns = some key.ns ∧
    job.metadata.ownerReferences = some [o] ∧ b.metadata.uid = some o.uid

variable {settings : BuilderSettings} {s t : Store} {w w' : World} {key k : Key} {job job' : Job}
  {b : ImageBuild} {uid : String}

theorem isOwnedBy_iff {o : OwnerReference} (h : job.metadata.ownerReferences = some [o]) :
    job.isOwnedBy uid ↔ o.uid = uid := by
  simp [Job.isOwnedBy, Metadata.owners, h]

theorem Owned.kept (h : Owned s k job) (hl : job.lineage = job'.lineage)
    (hs : ∀ key b uid, s.imageBuilds.get? key = some b → b.hasFinalizer →
      b.metadata.uid = some uid → job.isOwnedBy uid →
        ∃ b', t.imageBuilds.get? key = some b' ∧ b'.metadata.uid = b.metadata.uid ∧
          b'.hasFinalizer) : Owned t k job' := by
  obtain ⟨key, b, o, hb, hf, hk, hname, hns, howners, hu⟩ := h
  obtain ⟨b', hb', hu', hf'⟩ := hs key b o.uid hb hf hu ((isOwnedBy_iff howners).mpr rfl)
  have hname' : job'.metadata.name = job.metadata.name := congrArg (·.name) hl.symm
  have hns' : job'.metadata.ns = job.metadata.ns := congrArg (·.ns) hl.symm
  have howners' : job'.metadata.ownerReferences = job.metadata.ownerReferences :=
    congrArg (·.owners) hl.symm
  exact ⟨key, b', o, hb', hf', hk, hname'.trans hname, hns'.trans hns, howners'.trans howners,
    hu'.trans hu⟩

/-- Where uids are distinct, an image build that owns a job carries the finalizer, and the job has the
key of its builder job. -/
theorem Owned.owner (h : Owned s k job) (hd : s.DistinctUids)
    (hb : s.imageBuilds.get? key = some b) (hu : b.metadata.uid = some uid)
    (ho : job.isOwnedBy uid) : k = jobKey key ∧ b.hasFinalizer := by
  obtain ⟨key', b', o, hb', hf, hk, -, -, howners, hu'⟩ := h
  have huid : o.uid = uid := (isOwnedBy_iff howners).mp ho
  have hkey : key' = key := hd key' key b' b uid hb' hb (huid ▸ hu') hu
  subst hkey
  cases hb.symm.trans hb'
  exact ⟨hk, hf⟩

/-- The jobs of a world are accounted for: each has its image build, and the finalizer of an image
build is about to be removed only when no job is left of it. -/
structure Accounted (settings : BuilderSettings) (w : World) : Prop extends
    Coherent settings w where
  distinct : w.store.DistinctUids
  owned : ∀ e ∈ w.store.jobs, Owned w.store e.1 e.2
  cleared : ∀ {key i b f next uid}, w.active key = some i →
    i.rest = .call (.removeFinalizer b f) next → b.metadata.uid = some uid → w.store.NoJobOf uid

theorem Accounted.empty (settings : BuilderSettings) : Accounted settings (.idle {}) where
  toCoherent := Coherent.idle .empty
  distinct := fun _ _ _ _ _ h => (by cases h)
  owned := fun _ h => (by cases h)
  cleared := fun h => (by cases h)

variable {i : Invocation} {r : Request} {next : Answer r → Reconciliation} {a : Answer r}

theorem noJobOf_of_absent (hd : s.DistinctUids) (ho : ∀ e ∈ s.jobs, Owned s e.1 e.2)
    (hb : s.imageBuilds.get? key = some b) (hu : b.metadata.uid = some uid)
    (habsent : s.jobs.get? (jobKey key) = none) : s.NoJobOf uid := by
  intro e he howned
  exact Table.get?_eq_none_iff.mp habsent e he ((ho e he).owner hd hb hu howned).1

theorem Coherent.releasing {f : String} {next : Answer (.removeFinalizer b f) → Reconciliation}
    (h : Coherent settings w) (running : w.active key = some i)
    (pending : i.rest = .call (.removeFinalizer b f) next) :
    snapshotKey b = key ∧
      ∃ c, w.store.imageBuilds.get? key = some c ∧ c.metadata.uid = b.metadata.uid := by
  have hst := h.stage running
  rw [pending] at hst
  obtain ⟨hheard, -, held, -⟩ := hst.releasing_inv
  have hb : sawImageBuild key b ∈ i.heard := by
    rw [hheard]
    exact List.mem_cons_self
  obtain ⟨c, hc, hcb⟩ := h.current running b _ next hb held pending
  exact ⟨h.keyed running b hb, c, hc, congrArg (·.metadata.uid) hcb⟩

theorem Accounted.releasing {f : String} {next : Answer (.removeFinalizer b f) → Reconciliation}
    (h : Accounted settings w) (running : w.active key = some i)
    (pending : i.rest = .call (.removeFinalizer b f) next) :
    snapshotKey b = key ∧ ∃ c, w.store.imageBuilds.get? key = some c ∧
      ∀ uid, c.metadata.uid = some uid → w.store.NoJobOf uid := by
  obtain ⟨hk, c, hc, hcu⟩ := h.toCoherent.releasing running pending
  exact ⟨hk, c, hc, fun uid hu => h.cleared running pending (hcu.symm.trans hu)⟩

/-- After a call that is answered, every job is owned. -/
theorem Accounted.owned_answered (h : Accounted settings w) (running : w.active key = some i)
    (pending : i.rest = .call r next) (answer : w.store.answer r = some (a, t)) :
    ∀ e ∈ t.jobs, Owned t e.1 e.2 := by
  have hst := h.stage running
  rw [pending] at hst
  intro e he
  obtain hold | ⟨ns, job, hx⟩ := Store.answer_noNewJob answer
  · obtain ⟨e', he', hk, hl⟩ := hold e he
    rw [← hk]
    refine (h.owned e' he').kept hl ?_
    intro k b uid hb hf hu howned
    obtain hkept | ⟨c, f, hc, hx⟩ := Store.answer_guard_kept answer hb hf
      fun _ _ hr => hst.adding_inv hr
    · exact hkept
    -- The image build that is released here is not the owner of a job that is still there.
    · cases hx
      obtain ⟨hck, d, hd, hfree⟩ := h.releasing running pending
      cases hck.symm.trans hc
      cases hd.symm.trans hb
      exact absurd howned (hfree uid hu e' he')
  · cases hx
    obtain ⟨_, _, stored, job, hg⟩ := h.creation (.succeeds running pending answer)
    rcases hg.others e he with rfl | he
    · obtain ⟨o, howners, -, hu, -⟩ := hg.owner
      exact ⟨key, stored, o, hg.kept ▸ hg.there, hg.guarded, rfl, hg.name, hg.ns, howners, hu⟩
    · refine (h.owned e he).kept rfl ?_
      intro k b uid hb hf _ _
      exact ⟨b, hg.kept ▸ hb, rfl, hf⟩

/-- After a call that is answered, what an invocation is about to release owns no job. -/
theorem Accounted.cleared_answered (h : Accounted settings w) (running : w.active key = some i)
    (pending : i.rest = .call r next) (answer : w.store.answer r = some (a, t))
    {j : Invocation} {f : String} {next' : Answer (.removeFinalizer b f) → Reconciliation}
    (hj : (World.withActive ⟨t, w.active⟩ key
      (some ⟨i.now, i.heard ++ [⟨r, a⟩], next a⟩)).active k = some j)
    (hp : j.rest = .call (.removeFinalizer b f) next') (hu : b.metadata.uid = some uid) :
    t.NoJobOf uid := by
  have hcoh := h.toCoherent.step (fun _ _ (hb : Admitted _ _) => hb.unused)
    (.call running pending answer)
  obtain ⟨-, c, hc, hcu⟩ := hcoh.releasing hj hp
  have hst := hcoh.stage hj
  rw [hp] at hst
  obtain ⟨hheard, -, -, -⟩ := hst.releasing_inv
  obtain ⟨rfl, hself⟩ | ⟨hne, hother⟩ := World.active_withActive hj
  -- The invocation has just been told that its job is not there.
  · cases hself
    have hlast : i.heard ++ [⟨r, a⟩] = [sawImageBuild k b] ++ [sawJob k none] := hheard
    cases (List.append_inj' hlast rfl).2
    have habsent : t.jobs.get? (jobKey k) = none := by
      obtain ⟨e, he, -⟩ | ⟨x, hx, hsucc⟩ := Store.answer_cases answer
      · cases he
      · cases hx
        cases hsucc with
        | jobRead stored => exact stored
    exact noJobOf_of_absent (h.distinct.of_noNewImageBuild (Store.answer_noNewImageBuild answer))
      (h.owned_answered running pending answer) hc (hcu.trans hu) habsent
  · have hcleared := h.cleared hother hp hu
    obtain hold | ⟨ns, job, hx⟩ := Store.answer_noNewJob answer
    · exact hcleared.of_noNewJob hold
    -- A job that another invocation creates belongs to the image build of that one.
    · cases hx
      obtain ⟨_, _, stored, job, hg⟩ := h.creation (.succeeds running pending answer)
      intro e he howned
      rcases hg.others e he with rfl | he
      · obtain ⟨o, howners, -, huo, -⟩ := hg.owner
        have huid : o.uid = uid := (isOwnedBy_iff howners).mp howned
        obtain ⟨-, d, hd, hdu⟩ := h.toCoherent.releasing hother hp
        exact hne (h.distinct k key d stored uid hd hg.there (hdu.trans hu) (huid ▸ huo))
      · exact hcleared e he howned

theorem Accounted.step (h : Accounted settings w)
    (hs : Turn settings (Outside Admitted) w w') : Accounted settings w' := by
  have hcoh := h.toCoherent.step (fun _ _ hb => hb.unused) hs
  cases hs with
  | begin now free =>
    refine ⟨hcoh, h.distinct, h.owned, ?_⟩
    intro k j b f next uid hk hp hu
    obtain ⟨rfl, hj⟩ | ⟨-, hj⟩ := World.active_withActive hk
    · cases hj
      cases hp
    · exact h.cleared hj hp hu
  | call running pending answer =>
    exact ⟨hcoh, h.distinct.of_noNewImageBuild (Store.answer_noNewImageBuild answer),
      h.owned_answered running pending answer, h.cleared_answered running pending answer⟩
  | leave key =>
    refine ⟨hcoh, h.distinct, h.owned, ?_⟩
    intro k j b f next uid hk hp hu
    obtain ⟨-, hj⟩ | ⟨-, hj⟩ := World.active_withActive hk
    · cases hj
    · exact h.cleared hj hp hu
  | outside change =>
    refine ⟨hcoh, h.distinct.outside change, ?_, ?_⟩
    · intro e he
      obtain ⟨e', he', hk, hl⟩ := change.noNewJob e he
      rw [← hk]
      refine (h.owned e' he').kept hl ?_
      intro key b uid hb hf _ _
      obtain ⟨c, hc, hcb⟩ := change.content_kept (fun _ _ hb => hb.unused) hb hf
      exact ⟨c, hc, congrArg (·.metadata.uid) hcb, ImageBuild.hasFinalizer_of_content hcb hf⟩
    · intro key i b f next uid hi hp hu
      exact (h.cleared hi hp hu).of_noNewJob change.noNewJob

theorem Accounted.run (h : Accounted settings w)
    (hr : Reaches settings (Outside Admitted) w w') : Accounted settings w' := by
  induction hr with
  | refl => exact h
  | tail _ hs ih => exact ih.step hs

theorem Accounted.finalizer_removed (h : Accounted settings w)
    (hs : Turn settings (Outside Admitted) w w') {added : List Event}
    (he : w'.store.events = w.store.events ++ added) (hk : .finalizerRemoved key ∈ added) :
    ∃ c, w.store.imageBuilds.get? key = some c ∧
      ∀ uid, c.metadata.uid = some uid → w.store.NoJobOf uid := by
  cases hs with
  | begin _ _ | leave _ =>
    cases List.self_eq_append_right.mp he
    cases hk
  | outside change =>
    obtain hsame | ⟨k, hdel⟩ := change.events
    · cases List.self_eq_append_right.mp (hsame.symm.trans he)
      cases hk
    · cases List.append_cancel_left (hdel.symm.trans he)
      cases List.mem_singleton.mp hk
  | call running pending answer =>
    cases List.append_cancel_left ((Store.answer_events answer).symm.trans he)
    obtain ⟨c, f, hc, hx⟩ := Exchange.finalizerRemoved_inv (Option.mem_toList.mp hk)
    cases hx
    obtain ⟨hkey, hfree⟩ := h.releasing running pending
    cases hc.symm.trans hkey
    exact hfree

theorem Accounted.noJobOf_of_bare (h : Accounted settings w)
    (hb : w.store.imageBuilds.get? key = some b) (hf : ¬ b.hasFinalizer)
    (hu : b.metadata.uid = some uid) : w.store.NoJobOf uid := by
  intro e he howned
  exact hf ((h.owned e he).owner h.distinct hb hu howned).2

/-- An image build goes only when no job is left of it. -/
theorem Accounted.imageBuild_gone (h : Accounted settings w)
    (hs : Turn settings (Outside Admitted) w w')
    (hb : w.store.imageBuilds.get? key = some b)
    (hgone : w'.store.imageBuilds.get? key = none) (hu : b.metadata.uid = some uid) :
    w.store.NoJobOf uid := by
  by_cases hf : b.hasFinalizer
  · cases hs with
    | begin _ _ | leave _ => cases hgone.symm.trans hb
    | outside change =>
      obtain ⟨c, hc, -⟩ := change.content_kept (fun _ _ hb => hb.unused) hb hf
      cases hgone.symm.trans hc
    | @call k i r next a t running pending answer =>
      have hst := h.stage running
      rw [pending] at hst
      obtain ⟨c, hc, -⟩ | ⟨c, f, hc, hx⟩ := Store.answer_guard_kept answer hb hf
        fun _ _ hr => hst.adding_inv hr
      · cases hgone.symm.trans hc
      · cases hx
        obtain ⟨hk, d, hd, hfree⟩ := h.releasing running pending
        cases hc.symm.trans hk
        cases hd.symm.trans hb
        exact hfree uid hu
  · exact h.noJobOf_of_bare hb hf hu

/-- No job is ever orphaned: from an empty cluster on, every job that is stored has its guarded image
build. So a finalizer is removed, and an image build goes, only when no job is left of it. -/
theorem no_job_orphaned (hr : Reaches settings (Outside Admitted) (.idle {}) w) :
    (∀ e ∈ w.store.jobs, Owned w.store e.1 e.2) ∧
      ∀ w', Turn settings (Outside Admitted) w w' →
        (∀ key added, w'.store.events = w.store.events ++ added →
          .finalizerRemoved key ∈ added → ∃ b, w.store.imageBuilds.get? key = some b ∧
            ∀ uid, b.metadata.uid = some uid → w.store.NoJobOf uid) ∧
        ∀ key b uid, w.store.imageBuilds.get? key = some b →
          w'.store.imageBuilds.get? key = none → b.metadata.uid = some uid →
            w.store.NoJobOf uid := by
  have h : Accounted settings w := (Accounted.empty settings).run hr
  refine ⟨h.owned, ?_⟩
  intro w' hs
  exact ⟨fun _ _ he hk => h.finalizer_removed hs he hk,
    fun _ _ _ hb hgone hu => h.imageBuild_gone hs hb hgone hu⟩

/-- The job of a plain image build, once created, has its image build. -/
theorem plain_job_not_orphaned :
    ∃ w, Reaches {} (Outside Admitted) (.idle {}) w ∧ w.store.jobs ≠ [] ∧
      ∀ e ∈ w.store.jobs, Owned w.store e.1 e.2 := by
  obtain ⟨w, w', hr, hc⟩ := plain_job_created (Outside Admitted)
  have hadd : Admitted {} plainImageBuild := ⟨rfl, by decide, fun _ _ h => (by cases h)⟩
  have hadded : Turn {} (Outside Admitted) (.idle {})
      (.idle (({} : Store).addImageBuild plainImageBuild)) := .outside (.added _ hadd)
  have hw := (Relation.ReflTransGen.single hadded).trans hr
  obtain ⟨_, _, _, _, hg⟩ := ((Accounted.empty {}).run hw).creation hc
  refine ⟨w', hw.tail hc.turn, ?_, (no_job_orphaned (hw.tail hc.turn)).1⟩
  intro hnone
  have hcreated := hg.created
  simp [hnone] at hcreated

end Controller

end ImageForge
