import ImageForge.Proofs.Reconcile.Interleaving

/-! What becomes of jobs while nobody creates one. -/
namespace ImageForge.Cluster

/-- How the jobs of a cluster change without a new one: some are gone, or one is written again. -/
inductive Dwindles (jobs : Table Job) : Table Job → Prop
  | same : Dwindles jobs jobs
  | erased (k : Key) : Dwindles jobs (jobs.erase k)
  | kept (p : Job → Bool) : Dwindles jobs (jobs.keep p)
  | rewritten {k : Key} {job : Job} (job' : Job) (found : jobs.get? k = some job)
      (leaving : job.metadata.isBeingDeleted → job'.metadata.isBeingDeleted) :
      Dwindles jobs (jobs.put k job')

variable {s t : Store} {r : Request} {k : Key} {job job' : Job} {jobs jobs' : Table Job}
  {admits : Store → ImageBuild → Prop}

theorem Dwindles.distinct (h : Dwindles jobs jobs') (hd : jobs.Distinct) : jobs'.Distinct := by
  cases h with
  | same => exact hd
  | erased k => exact hd.erase
  | kept p => exact hd.keep
  | rewritten job' _ _ => exact hd.put

/-- The job of a key was there before, and is still terminating if it was. -/
theorem Dwindles.found (h : Dwindles jobs jobs') (hd : jobs.Distinct)
    (hj : jobs'.get? k = some job') :
    ∃ job, jobs.get? k = some job ∧
      (job.metadata.isBeingDeleted → job'.metadata.isBeingDeleted) := by
  cases h with
  | same => exact ⟨job', hj, id⟩
  | erased k' =>
    rw [Table.get?_erase] at hj
    split at hj
    · cases hj
    · exact ⟨job', hj, id⟩
  | kept p =>
    rw [hd.get?_keep, Option.filter_eq_some_iff] at hj
    exact ⟨job', hj.1, id⟩
  | rewritten new found leaving =>
    rw [Table.get?_put] at hj
    split at hj
    next hk =>
      cases hj
      exact ⟨_, hk ▸ found, leaving⟩
    next => exact ⟨job', hj, id⟩

namespace Store

theorem deleteJob_dwindles (s : Store) (k : Key) : Dwindles s.jobs (s.deleteJob k).jobs := by
  unfold deleteJob
  split
  · split
    · exact .same
    next job hj => exact .rewritten _ hj fun _ => rfl
  · exact .erased k

theorem deleteJob_terminating (h : (s.deleteJob k).jobs.get? k = some job) :
    job.metadata.isBeingDeleted := by
  unfold deleteJob at h
  split at h
  · split at h
    next habsent => cases habsent.symm.trans h
    next =>
      cases (Table.get?_put_self _ _ _).symm.trans h
      rfl
  · cases (Table.get?_erase_self _ _).symm.trans h

theorem removed_dwindles (s : Store) (k : Key) (uid : Option String) :
    Dwindles s.jobs (s.removed k uid).jobs := by
  cases uid with
  | none => exact .same
  | some uid => exact .kept (!·.isOwnedBy uid)

theorem Success.dwindles {x : r.Reply} (h : Success s r x t) :
    Dwindles s.jobs t.jobs ∨ ∃ ns job, r = .createJob ns job ∧
      t.jobs = s.jobs.put ⟨ns, job.metadata.displayName⟩ (job.accepted ns s.nextVersion) := by
  cases h with
  | imageBuildRead _ | jobRead _ | finalizerAdded _ _ | finalizerRemoved _ _ _
  | statusPatched _ _ => exact Or.inl .same
  | released _ _ _ _ => exact Or.inl (removed_dwindles _ _ _)
  | @jobCreated ns job _ => exact Or.inr ⟨ns, job, rfl, rfl⟩
  | jobDeleted k => exact Or.inl (deleteJob_dwindles s k)

end Store

theorem Outside.dwindles (h : Outside admits s t) : Dwindles s.jobs t.jobs := by
  cases h with
  | marked key =>
    simp only [Store.markForDeletion]
    split
    · exact .same
    · split
      · exact Store.removed_dwindles s key _
      · exact .same
  | jobReported key status =>
    simp only [Store.setJobStatus]
    split
    · exact .same
    next job hj => exact .rewritten _ hj id
  | jobVanished key => exact .erased key
  | jobDeleted key => exact Store.deleteJob_dwindles s key
  | deletionsCompleted => exact .kept (!·.metadata.isBeingDeleted)
  | added _ _ | deletionsHeld _ | failing _ _ | stalling _ => exact .same

end ImageForge.Cluster
