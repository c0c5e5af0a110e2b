import ImageForge.Proofs.Cluster.Answer

/-! Programs that run to their end on a cluster to which nothing else happens meanwhile. -/
namespace ImageForge.Cluster

namespace Store

variable {s t : Store} {r : Request} {x : r.Reply} {ns what : String} {job : Job}

/-- What a successful call answers and leaves behind is what it comes to. -/
theorem perform_of_success (h : Success s r x t) : s.perform r = (.ok x, t) := by
  cases h with
  | imageBuildRead stored | jobRead stored =>
    simp only [perform, stored]
  | @finalizerAdded snap b f stored current =>
    have hheld : ¬ (b.isBeingDeleted ∧ (withFinalizer snap.metadata.finalizerList f).isEmpty) :=
      fun h => withFinalizer_ne_nil _ f (List.isEmpty_iff.mp h.2)
    rw [perform, writeFinalizers_eq stored current, if_neg hheld]
    rfl
  | finalizerRemoved stored current kept =>
    rw [perform, writeFinalizers_eq stored current, if_neg kept]
    rfl
  | released stored current deleted bare =>
    rw [perform, writeFinalizers_eq stored current, if_pos ⟨deleted, bare⟩]
    rfl
  | statusPatched status stored =>
    simp only [perform, patchStatus, stored, perform.commit]
    rfl
  | jobCreated vacant =>
    simp only [perform, createJob, vacant, perform.commit]
    rfl
  | jobDeleted k => rfl

theorem answer_alreadyExists
    (h : s.answer (.createJob ns job) = some (.error (.alreadyExists what), t)) :
    s.jobs.get? ⟨ns, job.metadata.displayName⟩ ≠ none := by
  intro vacant
  simp only [answer] at h
  split at h
  · cases h
  · split at h
    next f _ => cases f <;> cases h
    next => simp [perform, createJob, vacant, perform.commit] at h

/-- No failure waits for a call, and no call hangs. -/
structure Quiet (s : Store) : Prop where
  failures : s.failures = []
  stalled : s.stalled = []

theorem answer_of_quiet (h : s.Quiet) (r : Request) : s.answer r = some (s.perform r) := by
  simp [answer, injected?, h.failures, h.stalled]

theorem Quiet.answer_eq (h : s.Quiet) (hs : Success s r x t) : s.answer r = some (.ok x, t) := by
  rw [answer_of_quiet h, perform_of_success hs]

theorem Quiet.of_success (h : s.Quiet) (hs : Success s r x t) : t.Quiet := by
  cases hs with
  | imageBuildRead _ | jobRead _ => exact h
  | finalizerAdded _ _ | finalizerRemoved _ _ _ | statusPatched _ _ | jobCreated _ =>
    exact ⟨h.failures, h.stalled⟩
  | @released snap b f _ _ _ _ =>
    unfold removed collectGarbage
    cases b.metadata.uid <;> exact ⟨h.failures, h.stalled⟩
  | jobDeleted k =>
    unfold deleteJob
    split
    · split <;> exact ⟨h.failures, h.stalled⟩
    · exact ⟨h.failures, h.stalled⟩

end Store

variable {α : Type} {s t u : Store} {r : Request} {next : Answer r → Program α} {a result : α}

/-- A program that is run on a store ends with a result, and leaves a store behind. -/
structure Ends (s : Store) (p : Program α) (result : α) (t : Store) : Prop where
  result : (p.run s).result = some result
  store : (p.run s).store = t

theorem ends_done_iff : Ends s (.done a) result t ↔ a = result ∧ s = t := by
  constructor
  · rintro ⟨hresult, rfl⟩
    exact ⟨Option.some.inj hresult, rfl⟩
  · rintro ⟨rfl, rfl⟩
    exact ⟨rfl, rfl⟩

theorem ends_call_iff : Ends s (.call r next) result u ↔
    ∃ a t, s.answer r = some (a, t) ∧ Ends t (next a) result u := by
  constructor
  · rintro ⟨hresult, hstore⟩
    cases ha : s.answer r with
    | none => simp [Program.run, ha] at hresult
    | some answered =>
      simp only [Program.run, ha] at hresult hstore
      exact ⟨answered.1, answered.2, rfl, hresult, hstore⟩
  · rintro ⟨a, t, ha, hresult, hstore⟩
    constructor
    · simp only [Program.run, ha]
      exact hresult
    · simp only [Program.run, ha]
      exact hstore

theorem Ends.call {x : r.Reply} (hq : s.Quiet) (hs : Store.Success s r x t)
    (h : Ends t (next (.ok x)) result u) : Ends s (.call r next) result u :=
  ends_call_iff.mpr ⟨.ok x, t, hq.answer_eq hs, h⟩

theorem mem_calls_self (s : Store) (r : Request) (next : Answer r → Program α) :
    r ∈ ((Program.call r next).run s).calls := by
  unfold Program.run
  split <;> exact List.mem_cons_self

theorem mem_calls_of_success {r' : Request} {x : r.Reply} (hq : s.Quiet)
    (hs : Store.Success s r x t) (h : r' ∈ ((next (.ok x)).run t).calls) :
    r' ∈ ((Program.call r next).run s).calls := by
  simp only [Program.run, hq.answer_eq hs]
  exact List.mem_cons_of_mem r h

end ImageForge.Cluster
