import ImageForge.Proofs.Reconcile.Effects
import ImageForge.Proofs.Reconcile.Failure

/-! What an invocation does with a job that is there under the name of its builder job. It never asks
whose job that is. -/
namespace ImageForge

namespace Cluster.Store

variable {s t : Store} {r : Request} {x : r.Reply} {op : Operation}

/-- Calls of a kind do not hang, and no failure waits for them. -/
structure Serves (s : Store) (op : Operation) : Prop where
  answered : op ∉ s.stalled
  spared : s.injected? op = none

theorem Serves.answer_eq (h : s.Serves r.operation) : s.answer r = some (s.perform r) := by
  simp only [answer, if_neg h.answered, h.spared]

theorem answer_of_not_serves (h : ¬ s.Serves r.operation) :
    s.answer r = none ∨ ∃ e t, s.answer r = some (.error e, t) ∧ s.SameObjects t := by
  by_cases hstalled : r.operation ∈ s.stalled
  · exact Or.inl (if_pos hstalled)
  · cases hwaiting : s.injected? r.operation with
    | none => exact absurd ⟨hstalled, hwaiting⟩ h
    | some f =>
      refine Or.inr ⟨f.toError, { s with failures := s.failures.filter (·.1 ≠ r.operation) }, ?_,
        rfl, rfl, rfl⟩
      simp only [answer, if_neg hstalled, hwaiting]

end Cluster.Store

namespace Controller

open Cluster Reconciliation

variable {settings : BuilderSettings} {key : Key} {now : Instant} {s t : Store} {b : ImageBuild}
  {job : Job} {r : Request} {x : r.Reply} {result : Except ControllerError Verdict}

theorem run_ask_of_serves {next : r.Reply → Reconciliation} (h : s.Serves r.operation)
    (hx : s.perform r = (.ok x, t)) : ((ask r next).run s).store = ((next x).run t).store := by
  simp only [ask, Program.run, h.answer_eq, hx]

/-- A call that does not succeed ends the invocation, and no object is changed. -/
theorem sameObjects_of_not_serves {next : r.Reply → Reconciliation}
    (h : ¬ s.Serves r.operation) : s.SameObjects ((ask r next).run s).store := by
  obtain ha | ⟨e, t, ha, hsame⟩ := Store.answer_of_not_serves h
  · simp only [ask, Program.run, ha]
    exact .refl s
  · simp only [ask, Program.run, ha]
    exact hsame

/-- A job that an invocation takes for the one of its image build: it reads both, the finalizer is there,
and the job is not going away. -/
structure TakesUp (s : Store) (key : Key) (b : ImageBuild) (job : Job) : Prop where
  imageBuild : s.imageBuilds.get? key = some b
  held : b.hasFinalizer
  stored : s.jobs.get? (jobKey key) = some job
  alive : ¬ job.metadata.isBeingDeleted
  reads : s.Serves .getImageBuild
  looks : s.Serves .getJob

theorem TakesUp.eq_read {c : ImageBuild} (h : TakesUp s key c job)
    (hb : s.imageBuilds.get? key = some b) : c = b :=
  Option.some.inj (h.imageBuild.symm.trans hb)

/-- A status tells no more of a job than another one: at most the initial record of the job is new. -/
structure SameOutcome (now : Instant) (old new : ImageBuildStatus) : Prop where
  phase : new.phase = old.phase
  startTime : new.startTime = old.startTime
  completionTime : new.completionTime = old.completionTime
  ready : Conditions.Completed now .builderJobReady old.conditions new.conditions

theorem SameOutcome.refl (now : Instant) (status : ImageBuildStatus) : SameOutcome now status status :=
  ⟨rfl, rfl, rfl, Or.inl rfl⟩

theorem SameOutcome.refresh (status : ImageBuildStatus) (generation : Option Int) (now : Instant) :
    SameOutcome now status (status.refresh generation now) :=
  ⟨rfl, rfl, rfl, Conditions.completed_initializeAll _ _⟩

/-- No job is touched, and no status tells more of one. -/
structure LeavesAlone (key : Key) (now : Instant) (s t : Store) : Prop where
  jobs : t.jobs = s.jobs
  status : ∀ b, s.imageBuilds.get? key = some b → ∃ b', t.imageBuilds.get? key = some b' ∧
    SameOutcome now b.recorded b'.recorded

theorem LeavesAlone.of_sameObjects (h : s.SameObjects t) : LeavesAlone key now s t where
  jobs := h.jobs
  status b hb := ⟨b, h.imageBuilds ▸ hb, .refl now _⟩

/-- What comes of the job under the name: it is deleted with its image build, or what became of it is
recorded, or neither. -/
inductive Upshot (key : Key) (now : Instant) (job : Job) (s t : Store) : Prop
  | deleted {b : ImageBuild} (takes : TakesUp s key b job) (marked : b.isBeingDeleted)
      (served : s.Serves .deleteJob)
      (job : t.jobs.get? (jobKey key) = remains s.holdJobDeletions (some job))
      (imageBuilds : t.imageBuilds = s.imageBuilds)
  | recorded {b b' : ImageBuild} (takes : TakesUp s key b job) (alive : ¬ b.isBeingDeleted)
      (served : s.Serves .patchStatus) (jobs : t.jobs = s.jobs)
      (stored : t.imageBuilds.get? key = some b')
      (status : b'.recorded = (Finding.observed job).status key b now)
  | spared (aside : ∀ b, TakesUp s key b job →
        ¬ s.Serves (if b.isBeingDeleted then .deleteJob else .patchStatus))
      (leaves : LeavesAlone key now s t)

theorem run_persist (hb : s.imageBuilds.get? key = some b) (d : ImageBuildStatus)
    (result : Except ControllerError Verdict) :
    let t := ((persist key b.recorded d (.done result)).run s).store
    t.jobs = s.jobs ∧ ∃ b', t.imageBuilds.get? key = some b' ∧
      (s.Serves .patchStatus → b'.recorded = d) ∧
      (¬ s.Serves .patchStatus → b'.recorded = b.recorded) := by
  unfold persist
  by_cases hsame : b.recorded = d
  · rw [if_pos hsame]
    exact ⟨rfl, b, hb, fun _ => hsame, fun _ => rfl⟩
  · rw [if_neg hsame]
    by_cases hserves : s.Serves .patchStatus
    · rw [run_ask_of_serves hserves (Store.perform_of_success (.statusPatched d hb))]
      exact ⟨rfl, _, Table.get?_put_self _ _ _, fun _ => rfl, fun h => absurd hserves h⟩
    · have hsame : s.SameObjects ((ask (.patchStatus key d) fun _ => .done result).run s).store :=
        sameObjects_of_not_serves hserves
      exact ⟨hsame.jobs, b, hsame.imageBuilds ▸ hb, fun h => absurd h hserves, fun _ => rfl⟩

theorem leavesAlone_addFinalizer (b : ImageBuild) (f : String) (verdict : Verdict) :
    LeavesAlone key now s
      ((ask (.addFinalizer b f) fun _ => .done (.ok verdict)).run s).store := by
  cases ha : s.answer (.addFinalizer b f) with
  | none =>
    simp only [ask, Program.run, ha]
    exact .of_sameObjects (.refl s)
  | some answered =>
    obtain ⟨a, t⟩ := answered
    have hstore : ((ask (.addFinalizer b f) fun _ => .done (.ok verdict)).run s).store = t := by
      simp only [ask, Program.run, ha]
      cases a <;> rfl
    rw [hstore]
    obtain ⟨e, -, hsame⟩ | ⟨x, -, hsucc⟩ := Store.answer_cases ha
    · exact .of_sameObjects hsame
    · cases hsucc with
      | @finalizerAdded _ stored _ hstored current =>
        refine ⟨rfl, fun c hc => ?_⟩
        by_cases hk : key = snapshotKey b
        · subst hk
          cases hstored.symm.trans hc
          exact ⟨_, Table.get?_put_self _ _ _, .refl now _⟩
        · exact ⟨c, (Table.get?_put_of_ne hk _ _).trans hc, .refl now _⟩

theorem upshot_deleted (hb : s.imageBuilds.get? key = some b) (deleted : b.isBeingDeleted)
    (stored : s.jobs.get? (jobKey key) = some job) (reads : s.Serves .getImageBuild) :
    Upshot key now job s ((reconcileDeleted key b).run s).store := by
  unfold reconcileDeleted
  by_cases held : b.hasFinalizer
  · rw [if_neg (by simp [held])]
    by_cases looks : s.Serves .getJob
    · rw [run_ask_of_serves looks (Store.perform_of_success (.jobRead stored))]
      by_cases going : job.metadata.isBeingDeleted
      · simp only [if_pos going]
        exact .spared (fun c h => absurd going h.alive) (.of_sameObjects (.refl s))
      · simp only [if_neg going]
        by_cases deletes : s.Serves .deleteJob
        · rw [run_ask_of_serves deletes (Store.perform_of_success (.jobDeleted _))]
          refine .deleted ⟨hb, held, stored, going, reads, looks⟩ deleted deletes ?_
            (Store.deleteJob_imageBuilds _)
          exact (deleteJob_jobs s _ _).trans (by rw [if_pos rfl, stored])
        · refine .spared (fun c h => ?_) (.of_sameObjects (sameObjects_of_not_serves deletes))
          rwa [h.eq_read hb, if_pos deleted]
    · exact .spared (fun c h => absurd h.looks looks)
        (.of_sameObjects (sameObjects_of_not_serves looks))
  · rw [if_pos (by simp [held])]
    exact .spared (fun c h => absurd (h.eq_read hb ▸ h.held) held) (.of_sameObjects (.refl s))

theorem upshot_guarded (hb : s.imageBuilds.get? key = some b) (alive : ¬ b.isBeingDeleted)
    (held : b.hasFinalizer) (stored : s.jobs.get? (jobKey key) = some job)
    (reads : s.Serves .getImageBuild) :
    Upshot key now job s ((reconcileGuarded settings key b now).run s).store := by
  unfold reconcileGuarded
  by_cases looks : s.Serves .getJob
  · rw [run_ask_of_serves looks (Store.perform_of_success (.jobRead stored))]
    by_cases going : job.metadata.isBeingDeleted
    · simp only [if_pos going]
      obtain ⟨hjobs, b', hb', htold, huntold⟩ :=
        run_persist hb ((Finding.terminating job).status key b now)
          (.ok { action := .requeue terminationPoll })
      refine .spared (fun c h => absurd going h.alive) ⟨hjobs, fun c hc => ⟨b', hb', ?_⟩⟩
      cases hb.symm.trans hc
      by_cases patches : s.Serves .patchStatus
      · rw [htold patches]
        exact .refresh _ _ now
      · rw [huntold patches]
        exact .refl now _
    · simp only [if_neg going]
      obtain ⟨hjobs, b', hb', htold, huntold⟩ :=
        run_persist hb ((Finding.observed job).status key b now)
          (.ok { action := .awaitChange })
      by_cases patches : s.Serves .patchStatus
      · exact .recorded ⟨hb, held, stored, going, reads, looks⟩ alive patches hjobs hb'
          (htold patches)
      · refine .spared (fun c h => ?_) ⟨hjobs, fun c hc => ⟨b', hb', ?_⟩⟩
        · rwa [h.eq_read hb, if_neg alive]
        · cases hb.symm.trans hc
          rw [huntold patches]
          exact .refl now _
  · exact .spared (fun c h => absurd h.looks looks)
      (.of_sameObjects (sameObjects_of_not_serves looks))

/-- Whoever owns it, a job is acted on where it is found under the name. -/
theorem reconcile_upshot (settings : BuilderSettings) (now : Instant)
    (stored : s.jobs.get? (jobKey key) = some job) :
    Upshot key now job s ((reconcile settings key now).run s).store := by
  unfold reconcile
  by_cases reads : s.Serves .getImageBuild
  · rw [run_ask_of_serves reads (Store.perform_of_success (.imageBuildRead rfl))]
    cases hb : s.imageBuilds.get? key with
    | none =>
      exact .spared (fun c h => (by cases hb.symm.trans h.imageBuild)) (.of_sameObjects (.refl s))
    | some b =>
      by_cases deleted : b.isBeingDeleted
      · simp only [if_pos deleted]
        exact upshot_deleted hb deleted stored reads
      · simp only [if_neg deleted]
        by_cases held : b.hasFinalizer
        · simp only [held, Bool.not_true, Bool.false_eq_true, if_false]
          exact upshot_guarded hb deleted held stored reads
        · have bare : (!b.hasFinalizer) = true := by simpa using held
          simp only [bare, if_true]
          refine .spared (fun c h => ?_) (leavesAlone_addFinalizer b _ _)
          exact absurd (h.eq_read hb ▸ h.held) held
  · exact .spared (fun c h => absurd h.reads reads)
      (.of_sameObjects (sameObjects_of_not_serves reads))

end Controller

end ImageForge
