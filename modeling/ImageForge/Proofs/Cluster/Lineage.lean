import ImageForge.Proofs.Cluster.Answer

/-! Where the objects of a cluster come from: apart from the one that is being added, each was there
before. -/
namespace ImageForge

/-- What never changes about a job that is stored: its name, its namespace and its owners. -/
structure Job.Lineage where
  name : Option String
  ns : Option String
  owners : Option (List OwnerReference)

def Job.lineage (job : Job) : Job.Lineage :=
  ⟨job.metadata.name, job.metadata.ns, job.metadata.ownerReferences⟩

namespace Cluster.Store

/-- Every image build of the second store is in the first one, with the same uid. -/
def NoNewImageBuild (s t : Store) : Prop :=
  ∀ k b', t.imageBuilds.get? k = some b' →
    ∃ b, s.imageBuilds.get? k = some b ∧ b.metadata.uid = b'.metadata.uid

/-- Every job of the second store is in the first one, of the same lineage. -/
def NoNewJob (s t : Store) : Prop :=
  ∀ e' ∈ t.jobs, ∃ e ∈ s.jobs, e.1 = e'.1 ∧ e.2.lineage = e'.2.lineage

def NoJobOf (s : Store) (uid : String) : Prop := ∀ e ∈ s.jobs, ¬ e.2.isOwnedBy uid

variable {s t : Store} {r : Request} {a : Answer r} {k : Key} {b : ImageBuild} {uid : String}

theorem NoNewImageBuild.of_eq (h : t.imageBuilds = s.imageBuilds) : NoNewImageBuild s t := by
  intro k b' hb
  exact ⟨b', h ▸ hb, rfl⟩

theorem NoNewImageBuild.of_erase (h : t.imageBuilds = s.imageBuilds.erase k) :
    NoNewImageBuild s t := by
  intro k' b' hb
  rw [h, Table.get?_erase] at hb
  split at hb
  · cases hb
  · exact ⟨b', hb, rfl⟩

theorem NoNewImageBuild.of_put {c : ImageBuild} (h : t.imageBuilds = s.imageBuilds.put k b)
    (hc : s.imageBuilds.get? k = some c) (hu : c.metadata.uid = b.metadata.uid) :
    NoNewImageBuild s t := by
  intro k' b' hb
  rw [h, Table.get?_put] at hb
  split at hb
  next hk =>
    cases hb
    exact ⟨c, hk ▸ hc, hu⟩
  next => exact ⟨b', hb, rfl⟩

theorem NoNewJob.of_subset (h : ∀ e ∈ t.jobs, e ∈ s.jobs) : NoNewJob s t := by
  intro e he
  exact ⟨e, h e he, rfl, rfl⟩

theorem NoNewJob.of_eq (h : t.jobs = s.jobs) : NoNewJob s t :=
  .of_subset fun _ he => h ▸ he

theorem NoNewJob.of_keep {p : Job → Bool} (h : t.jobs = s.jobs.keep p) : NoNewJob s t := by
  refine .of_subset fun e he => ?_
  rw [h] at he
  exact (Table.mem_keep.mp he).1

theorem NoNewJob.of_erase (h : t.jobs = s.jobs.erase k) : NoNewJob s t := by
  refine .of_subset fun e he => ?_
  rw [h] at he
  exact (Table.mem_erase.mp he).1

theorem NoNewJob.of_put {job c : Job} (h : t.jobs = s.jobs.put k job)
    (hc : s.jobs.get? k = some c) (hl : c.lineage = job.lineage) : NoNewJob s t := by
  intro e he
  rw [h] at he
  rcases Table.mem_put he with rfl | he
  · exact ⟨(k, c), Table.mem_of_get? hc, rfl, hl⟩
  · exact ⟨e, he, rfl, rfl⟩

theorem isOwnedBy_of_lineage {j j' : Job} (h : j'.lineage = j.lineage) :
    j'.isOwnedBy uid = j.isOwnedBy uid :=
  congrArg (fun l => (l.owners.getD []).any (·.uid = uid)) h

theorem NoJobOf.of_noNewJob (h : s.NoJobOf uid) (ht : NoNewJob s t) : t.NoJobOf uid := by
  intro e he ho
  obtain ⟨e', he', -, hl⟩ := ht e he
  exact h e' he' ((isOwnedBy_of_lineage hl).trans ho)

theorem collectGarbage_noNewJob (s : Store) (uid : Option String) :
    NoNewJob s (s.collectGarbage uid) := by
  cases uid with
  | none => exact .of_eq rfl
  | some u => exact .of_keep (p := (!·.isOwnedBy u)) rfl

theorem deleteJob_noNewJob (s : Store) (k : Key) : NoNewJob s (s.deleteJob k) := by
  unfold deleteJob
  split
  · split
    · exact .of_eq rfl
    next job hj => exact .of_put rfl hj rfl
  · exact .of_erase rfl

theorem answer_noNewImageBuild (h : s.answer r = some (a, t)) : NoNewImageBuild s t := by
  obtain ⟨e, rfl, hs⟩ | ⟨x, rfl, hs⟩ := answer_cases h
  · exact .of_eq hs.imageBuilds
  · cases hs with
    | imageBuildRead _ | jobRead _ => exact .of_eq rfl
    | finalizerAdded stored _ | finalizerRemoved stored _ _ | statusPatched _ stored =>
      exact .of_put rfl stored rfl
    | released _ _ _ _ => exact .of_erase (collectGarbage_imageBuilds _)
    | jobCreated _ => exact .of_eq rfl
    | jobDeleted _ => exact .of_eq (deleteJob_imageBuilds _)

theorem answer_noNewJob (h : s.answer r = some (a, t)) :
    NoNewJob s t ∨ ∃ ns job, (⟨r, a⟩ : Exchange) = ⟨.createJob ns job, .ok ()⟩ := by
  obtain ⟨e, rfl, hs⟩ | ⟨x, rfl, hs⟩ := answer_cases h
  · exact Or.inl (.of_eq hs.jobs)
  · cases hs with
    | imageBuildRead _ | jobRead _ | finalizerAdded _ _ | finalizerRemoved _ _ _
    | statusPatched _ _ => exact Or.inl (.of_eq rfl)
    | released _ _ _ _ => exact Or.inl (collectGarbage_noNewJob _ _)
    | jobCreated _ => exact Or.inr ⟨_, _, rfl⟩
    | jobDeleted k => exact Or.inl (deleteJob_noNewJob s k)

/-- A call leaves an image build its finalizer, unless it removes a finalizer of that image build, or
adds another one from an old snapshot. -/
theorem answer_guard_kept (h : s.answer r = some (a, t)) (hb : s.imageBuilds.get? k = some b)
    (hf : b.hasFinalizer) (hr : ∀ c f, r = .addFinalizer c f → f = ImageBuild.operatorFinalizer) :
    (∃ b', t.imageBuilds.get? k = some b' ∧ b'.metadata.uid = b.metadata.uid ∧ b'.hasFinalizer) ∨
      ∃ c f, snapshotKey c = k ∧ (⟨r, a⟩ : Exchange) = ⟨.removeFinalizer c f, .ok ()⟩ := by
  by_cases ht : r.target? = some k
  · obtain ⟨e, rfl, hs⟩ | ⟨x, rfl, hs⟩ := answer_cases h
    · exact Or.inl ⟨b, hs.imageBuilds ▸ hb, rfl, hf⟩
    · cases hs with
      | imageBuildRead _ | jobRead _ | jobCreated _ | jobDeleted _ => cases ht
      | finalizerAdded stored _ =>
        cases ht
        cases stored.symm.trans hb
        cases hr _ _ rfl
        exact Or.inl ⟨_, Table.get?_put_self _ _ _, rfl, by
          simp [ImageBuild.written_hasFinalizer, mem_withFinalizer]⟩
      | statusPatched status stored =>
        cases ht
        cases stored.symm.trans hb
        exact Or.inl ⟨_, Table.get?_put_self _ _ _, rfl, hf⟩
      | finalizerRemoved _ _ _ | released _ _ _ _ =>
        cases ht
        exact Or.inr ⟨_, _, rfl, rfl⟩
  · exact Or.inl ⟨b, (answer_imageBuilds_of_ne h ht).trans hb, rfl, hf⟩

end Cluster.Store

end ImageForge
