import ImageForge.Proofs.Cluster.Running
import ImageForge.Proofs.Reconcile.Observation
import ImageForge.Proofs.Reconcile.Stage

/-! When nothing is left to do for an image build. -/
namespace ImageForge

/-- One image build is another one with a status of its own; their versions may differ. -/
structure ImageBuild.IsWith (c b : ImageBuild) (status : ImageBuildStatus) : Prop where
  recorded : c.recorded = status
  spec : c.spec = b.spec
  name : c.metadata.name = b.metadata.name
  generation : c.metadata.generation = b.metadata.generation
  isBeingDeleted : c.isBeingDeleted = b.isBeingDeleted
  hasFinalizer : c.hasFinalizer = b.hasFinalizer

theorem ImageBuild.IsWith.refl (b : ImageBuild) : b.IsWith b b.recorded :=
  ⟨rfl, rfl, rfl, rfl, rfl, rfl⟩

theorem ImageBuild.patched_isWith (b : ImageBuild) (status : ImageBuildStatus) (version : String) :
    (b.patched status version).IsWith b status := ⟨rfl, rfl, rfl, rfl, rfl, rfl⟩

namespace Controller

open Cluster Reconciliation

theorem outputUrl_of_isWith {b c : ImageBuild} {status : ImageBuildStatus}
    (h : c.IsWith b status) : outputUrl c = outputUrl b := by
  simp only [outputUrl, outputFilename, h.spec, h.name]

namespace Finding

variable {key : Key} {b c : ImageBuild} {f : Finding} {job : Job} {now : Instant}

theorem fresh_of_told (h : c.IsWith b (f.status key b now)) :
    c.recorded.Fresh c.metadata.generation := by
  rw [h.recorded, h.generation]
  exact f.status_fresh key b now

theorem absent_told (h : c.IsWith b (f.status key b now)) (now' : Instant) :
    c.recorded = absent.status key c now' := ((fresh_of_told h).refresh now').symm

theorem observed_told (h : c.IsWith b ((observed job).status key b now)) (now' : Instant) :
    c.recorded = (observed job).status key c now' := by
  have hurl := outputUrl_of_isWith h
  have hsame : c.recorded.jobObserved c (builderJobName key.name) (jobState job) now' =
      c.recorded.jobObserved b (builderJobName key.name) (jobState job) now' := by
    simp only [ImageBuildStatus.jobObserved, ImageBuildStatus.jobSucceeded, hurl, h.spec]
  have hfresh := (fresh_of_told h).refresh now'
  symm
  calc (observed job).status key c now'
    _ = c.recorded.jobObserved c (builderJobName key.name) (jobState job) now' :=
      congrArg (·.jobObserved c (builderJobName key.name) (jobState job) now') hfresh
    _ = c.recorded.jobObserved b (builderJobName key.name) (jobState job) now' := hsame
    _ = c.recorded := by
      rw [h.recorded]
      exact ImageBuildStatus.jobObserved_again

end Finding

/-- Nothing is left to do for the image build of a key. -/
inductive AtRest (key : Key) (s : Store) : Prop
  | missing (absent : s.imageBuilds.get? key = none)
  | released {b} (stored : s.imageBuilds.get? key = some b) (deleted : b.isBeingDeleted)
      (bare : ¬ b.hasFinalizer)
  | finished {b} (stored : s.imageBuilds.get? key = some b) (alive : ¬ b.isBeingDeleted)
      (held : b.hasFinalizer) (vacant : s.jobs.get? (jobKey key) = none)
      (terminal : b.recorded.phase.isTerminal)
      (told : ∀ now, b.recorded = Finding.absent.status key b now)
  | observed {b job} (stored : s.imageBuilds.get? key = some b) (alive : ¬ b.isBeingDeleted)
      (held : b.hasFinalizer) (there : s.jobs.get? (jobKey key) = some job)
      (staying : ¬ job.metadata.isBeingDeleted)
      (told : ∀ now, b.recorded = (Finding.observed job).status key b now)

variable {key : Key} {s t : Store} {b : ImageBuild} {status : ImageBuildStatus}

theorem AtRest.congr (h : AtRest key s) (hb : t.imageBuilds = s.imageBuilds)
    (hj : t.jobs = s.jobs) : AtRest key t := by
  cases h with
  | missing absent => exact .missing (hb ▸ absent)
  | released stored deleted bare => exact .released (hb ▸ stored) deleted bare
  | finished stored alive held vacant terminal told =>
    exact .finished (hb ▸ stored) alive held (hj ▸ vacant) terminal told
  | observed stored alive held there staying told =>
    exact .observed (hb ▸ stored) alive held (hj ▸ there) staying told

/-- Whatever its calls are answered, a program changes nothing; and when none of them fails, it waits
for a change. -/
structure Idle (s : Store) (p : Reconciliation) : Prop where
  same : s.SameObjects (p.run s).store
  awaits : s.Quiet → Ends s p (.ok { action := .awaitChange }) s

namespace Idle

theorem settle (s : Store) : Idle s (settle .awaitChange) :=
  ⟨.refl s, fun _ => ends_done_iff.mpr ⟨rfl, rfl⟩⟩

theorem persist (h : b.recorded = status) :
    Idle s (persist key (b.status.getD {}) status (Reconciliation.settle .awaitChange)) := by
  have hsame : b.status.getD {} = status := h
  rw [Reconciliation.persist, if_pos hsame]
  exact settle s

/-- After a call that can only find what is there, all depends on what comes next. -/
theorem ask {r : Request} {next : r.Reply → Reconciliation} {x : r.Reply}
    (hx : Store.Success s r x s) (honly : ∀ {y t}, Store.Success s r y t → y = x ∧ t = s)
    (h : Idle s (next x)) : Idle s (ask r next) := by
  refine ⟨?_, fun hq => (h.awaits hq).call hq hx⟩
  cases ha : s.answer r with
  | none =>
    simp only [Reconciliation.ask, Program.run, ha]
    exact .refl s
  | some answered =>
    obtain ⟨a, t⟩ := answered
    simp only [Reconciliation.ask, Program.run, ha]
    obtain ⟨e, rfl, hsame⟩ | ⟨y, rfl, hy⟩ := Store.answer_cases ha
    · exact hsame
    · obtain ⟨rfl, rfl⟩ := honly hy
      exact h.same

theorem getImageBuild {next : Option ImageBuild → Reconciliation}
    (h : Idle s (next (s.imageBuilds.get? key))) :
    Idle s (Reconciliation.ask (.getImageBuild key) next) := by
  refine ask (.imageBuildRead rfl) ?_ h
  intro y t hy
  cases hy with
  | imageBuildRead stored => exact ⟨stored.symm, rfl⟩

theorem getJob {next : Option Job → Reconciliation} (h : Idle s (next (s.jobs.get? key))) :
    Idle s (Reconciliation.ask (.getJob key) next) := by
  refine ask (.jobRead rfl) ?_ h
  intro y t hy
  cases hy with
  | jobRead stored => exact ⟨stored.symm, rfl⟩

variable {settings : BuilderSettings} {now : Instant}

theorem read (stored : s.imageBuilds.get? key = some b)
    (h : Idle s (reconcileRead settings key b now)) : Idle s (reconcile settings key now) := by
  refine .getImageBuild ?_
  rw [stored]
  exact h

theorem guarded (stored : s.imageBuilds.get? key = some b) (alive : ¬ b.isBeingDeleted)
    (held : b.hasFinalizer) (h : Idle s (reconcileGuarded settings key b now)) :
    Idle s (reconcile settings key now) := by
  rw [← reconcileRead_of_guarded key alive held] at h
  exact .read stored h

end Idle

/-- An image build at rest is left alone. -/
theorem AtRest.idle (h : AtRest key s) (settings : BuilderSettings) (now : Instant) :
    Idle s (reconcile settings key now) := by
  cases h with
  | missing absent =>
    refine .getImageBuild ?_
    rw [absent]
    exact .settle s
  | released stored deleted bare =>
    refine .read stored ?_
    rw [reconcileRead, if_pos deleted, reconcileDeleted, if_pos (by simpa using bare)]
    exact .settle s
  | @finished b stored alive held vacant terminal told =>
    have hjobless : Idle s (reconcileJobless settings key b now) := by
      rw [reconcileJobless_of_terminal key terminal]
      exact .persist (told now)
    refine .guarded stored alive held (.getJob ?_)
    rw [vacant]
    exact hjobless
  | observed stored alive held there staying told =>
    refine .guarded stored alive held (.getJob ?_)
    simp only [there, if_neg staying]
    exact .persist (told now)

end Controller

end ImageForge
