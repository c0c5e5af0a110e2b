import ImageForge.Proofs.Reconcile.Wakeup

/-! Invocations that nothing disturbs come to rest, after three changes at most. -/
namespace ImageForge.Controller

open Cluster Reconciliation

variable {settings : BuilderSettings} {key : Key} {clock : Nat → Instant} {now : Instant}
  {s t u : Store} {b : ImageBuild} {job : Job} {status : ImageBuildStatus} {f : Finding} {n m : Nat}
  {result : Except ControllerError Verdict}

/-- The store after so many invocations, one after another, each with its own time. -/
def invoked (settings : BuilderSettings) (key : Key) (clock : Nat → Instant) (s : Store) :
    Nat → Store
  | 0 => s
  | n + 1 =>
    let t := invoked settings key clock s n
    ((reconcile settings key (clock n)).run t).store

theorem invoked_succ (settings : BuilderSettings) (key : Key) (clock : Nat → Instant) (s : Store)
    (n : Nat) : invoked settings key clock s (n + 1) =
      invoked settings key (fun i => clock (i + 1)) (invoked settings key clock s 1) n := by
  induction n with
  | zero => rfl
  | succ n ih => exact congrArg (fun t => ((reconcile settings key (clock (n + 1))).run t).store) ih

/-- The first `m` invocations change one thing each, and all others leave everything as it is. -/
structure Converges (settings : BuilderSettings) (key : Key) (clock : Nat → Instant) (s : Store)
    (m : Nat) : Prop where
  changing : ∀ n < m, ∃ result e,
    Ends (invoked settings key clock s n) (reconcile settings key (clock n)) result
      (invoked settings key clock s (n + 1)) ∧
    (invoked settings key clock s (n + 1)).events = (invoked settings key clock s n).events ++ [e]
  resting : ∀ n, m ≤ n →
    Ends (invoked settings key clock s n) (reconcile settings key (clock n))
      (.ok { action := .awaitChange }) (invoked settings key clock s n)
  total : ∀ n, ∃ es : List Event, es.length = min n m ∧
    (invoked settings key clock s n).events = s.events ++ es

theorem Converges.zero (hq : s.Quiet) (h : AtRest key s) : Converges settings key clock s 0 := by
  have hends : ∀ now, Ends s (reconcile settings key now) (.ok { action := .awaitChange }) s :=
    fun now => (h.idle settings now).awaits hq
  have hsame : ∀ n, invoked settings key clock s n = s := by
    intro n
    induction n with
    | zero => rfl
    | succ n ih =>
      rw [invoked, ih]
      exact (hends (clock n)).store
  refine ⟨fun n hn => absurd hn (Nat.not_lt_zero n), ?_, ?_⟩
  · intro n _
    rw [hsame]
    exact hends (clock n)
  · intro n
    exact ⟨[], by simp, by rw [hsame, List.append_nil]⟩

theorem Converges.succ {e : Event} (hends : Ends s (reconcile settings key (clock 0)) result u)
    (he : u.events = s.events ++ [e])
    (h : Converges settings key (fun i => clock (i + 1)) u m) :
    Converges settings key clock s (m + 1) := by
  have hone : invoked settings key clock s 1 = u := hends.store
  have hlater : ∀ n, invoked settings key clock s (n + 1) =
      invoked settings key (fun i => clock (i + 1)) u n := by
    intro n
    rw [invoked_succ, hone]
  refine ⟨?_, ?_, ?_⟩
  · intro n hn
    cases n with
    | zero =>
      rw [hone]
      exact ⟨result, e, hends, he⟩
    | succ n =>
      rw [hlater, hlater]
      exact h.changing n (Nat.lt_of_succ_lt_succ hn)
  · intro n hn
    cases n with
    | zero => cases hn
    | succ n =>
      rw [hlater]
      exact h.resting n (Nat.le_of_succ_le_succ hn)
  · intro n
    cases n with
    | zero => exact ⟨[], by simp, (List.append_nil s.events).symm⟩
    | succ n =>
      obtain ⟨es, hlength, hes⟩ := h.total n
      refine ⟨e :: es, by simp [hlength, Nat.succ_min_succ], ?_⟩
      rw [hlater, hes, he, List.append_assoc]
      rfl

/-- Nothing is left to do after `n` changes at most, each made by the next invocation whenever it
looks. -/
def Settling (settings : BuilderSettings) (key : Key) : Nat → Store → Prop
  | 0, s => s.Quiet ∧ AtRest key s
  | n + 1, s => s.Quiet ∧ AtRest key s ∨ ∀ now, ∃ result u e,
      Ends s (reconcile settings key now) result u ∧ u.events = s.events ++ [e] ∧
        Settling settings key n u

theorem Settling.converges (h : Settling settings key n s) :
    ∀ clock, ∃ m ≤ n, Converges settings key clock s m := by
  induction n generalizing s with
  | zero => exact fun clock => ⟨0, Nat.le_refl 0, .zero h.1 h.2⟩
  | succ n ih =>
    intro clock
    obtain ⟨hq, hrest⟩ | hchange := h
    · exact ⟨0, Nat.zero_le _, .zero hq hrest⟩
    · obtain ⟨result, u, e, hends, he, hu⟩ := hchange (clock 0)
      obtain ⟨m, hm, hc⟩ := ih hu fun i => clock (i + 1)
      exact ⟨m + 1, Nat.succ_le_succ hm, hc.succ hends he⟩

theorem Settling.mono (h : Settling settings key n s) : Settling settings key (n + 1) s := by
  induction n generalizing s with
  | zero => exact Or.inl h
  | succ n ih =>
    obtain hrest | hchange := h
    · exact Or.inl hrest
    · refine Or.inr fun now => ?_
      obtain ⟨result, u, e, hends, he, hu⟩ := hchange now
      exact ⟨result, u, e, hends, he, ih hu⟩

theorem persist_ends (result : Except ControllerError Verdict) (hq : s.Quiet)
    (hb : s.imageBuilds.get? key = some b) (news : b.recorded ≠ status) :
    ∃ u, Ends s (persist key (b.status.getD {}) status (.done result)) result u ∧
      Told key b status s u ∧ u.events = s.events ++ [.statusPatched key] ∧ u.Quiet := by
  have hsucc := Store.Success.statusPatched status hb
  have hpatch : persist key (b.status.getD {}) status (.done result) =
      ask (.patchStatus key status) fun _ => .done result := if_neg news
  rw [hpatch]
  exact ⟨_, .call hq hsucc (ends_done_iff.mpr ⟨rfl, rfl⟩), .patched key b status s, hsucc.events,
    hq.of_success hsucc⟩

theorem ends_read (hq : s.Quiet) (hb : s.imageBuilds.get? key = some b)
    (h : Ends s (reconcileRead settings key b now) result u) :
    Ends s (reconcile settings key now) result u := .call hq (.imageBuildRead hb) h

theorem ends_guarded (hq : s.Quiet) (hb : s.imageBuilds.get? key = some b)
    (alive : ¬ b.isBeingDeleted) (held : b.hasFinalizer)
    (h : Ends s (reconcileGuarded settings key b now) result u) :
    Ends s (reconcile settings key now) result u := by
  rw [← reconcileRead_of_guarded key alive held] at h
  exact ends_read hq hb h

theorem ends_jobless (hq : s.Quiet) (hb : s.imageBuilds.get? key = some b)
    (alive : ¬ b.isBeingDeleted) (held : b.hasFinalizer)
    (vacant : s.jobs.get? (jobKey key) = none)
    (h : Ends s (reconcileJobless settings key b now) result u) :
    Ends s (reconcile settings key now) result u :=
  ends_guarded hq hb alive held (.call hq (.jobRead vacant) h)

theorem ends_unbuildable {e : JobError} (hq : s.Quiet) (hb : s.imageBuilds.get? key = some b)
    (alive : ¬ b.isBeingDeleted) (held : b.hasFinalizer)
    (vacant : s.jobs.get? (jobKey key) = none) (unfinished : ¬ b.recorded.phase.isTerminal)
    (unbuildable : ownedBuilderJob b settings = .error e)
    (h : Ends s (persist key (b.status.getD {}) ((Finding.unbuildable e).status key b now)
      (.done (Finding.unbuildable e).outcome)) result u) :
    Ends s (reconcile settings key now) result u := by
  refine ends_jobless hq hb alive held vacant ?_
  rw [reconcileJobless_of_unbuildable key unfinished unbuildable]
  exact h

/-- When a finding is all that an invocation comes to, and nothing is left to do once it is told, one
change is enough. -/
theorem settling_told (hq : s.Quiet) (hb : s.imageBuilds.get? key = some b)
    (hrest : ∀ now u, Told key b (f.status key b now) s u → AtRest key u)
    (hends : ∀ now u, Ends s
      (persist key (b.status.getD {}) (f.status key b now) (.done f.outcome)) f.outcome u →
        Ends s (reconcile settings key now) f.outcome u) : Settling settings key 1 s := by
  by_cases hs : AtRest key s
  · exact Or.inl ⟨hq, hs⟩
  · refine Or.inr fun now => ?_
    have news : b.recorded ≠ f.status key b now := fun told => hs (hrest now s (.of_eq hb told))
    obtain ⟨u, hpersist, htold, he, hqu⟩ := persist_ends f.outcome hq hb news
    exact ⟨f.outcome, u, _, hends now u hpersist, he, hqu, hrest now u htold⟩

theorem settling_observed (hq : s.Quiet) (hb : s.imageBuilds.get? key = some b)
    (alive : ¬ b.isBeingDeleted) (held : b.hasFinalizer)
    (there : s.jobs.get? (jobKey key) = some job) (staying : ¬ job.metadata.isBeingDeleted) :
    Settling settings key 1 s := by
  refine settling_told (f := .observed job) hq hb
    (fun _ _ htold => htold.observed alive held there staying) ?_
  intro now u h
  refine ends_guarded hq hb alive held (.call hq (.jobRead there) ?_)
  simp only [if_neg staying]
  exact h

theorem settling_finished (hq : s.Quiet) (hb : s.imageBuilds.get? key = some b)
    (alive : ¬ b.isBeingDeleted) (held : b.hasFinalizer)
    (vacant : s.jobs.get? (jobKey key) = none) (terminal : b.recorded.phase.isTerminal) :
    Settling settings key 1 s := by
  refine settling_told (f := .absent) hq hb
    (fun _ _ htold => htold.absent alive held vacant terminal) ?_
  intro now u h
  refine ends_jobless hq hb alive held vacant ?_
  rw [reconcileJobless_of_terminal key terminal]
  exact h

theorem settling_unbuildable {e : JobError} (hq : s.Quiet) (hb : s.imageBuilds.get? key = some b)
    (alive : ¬ b.isBeingDeleted) (held : b.hasFinalizer)
    (vacant : s.jobs.get? (jobKey key) = none) (unfinished : ¬ b.recorded.phase.isTerminal)
    (unbuildable : ownedBuilderJob b settings = .error e) : Settling settings key 1 s := by
  refine settling_told (f := .unbuildable e) hq hb ?_
    fun _ _ h => ends_unbuildable hq hb alive held vacant unfinished unbuildable h
  intro now u htold
  obtain ⟨c, hc, hcb⟩ := htold.stored
  have hfailed : c.recorded.phase = .failed := by
    rw [hcb.recorded]
    exact Finding.unbuildable_phase unfinished
  exact .finished hc (hcb.isBeingDeleted ▸ alive) (hcb.hasFinalizer.trans held)
    (htold.jobs ▸ vacant) (hfailed ▸ rfl) (Finding.absent_told hcb)

theorem ends_creating (hq : s.Quiet) (hk : snapshotKey b = key)
    (hb : s.imageBuilds.get? key = some b) (alive : ¬ b.isBeingDeleted) (held : b.hasFinalizer)
    (vacant : s.jobs.get? (jobKey key) = none) (unfinished : ¬ b.recorded.phase.isTerminal)
    (built : ownedBuilderJob b settings = .ok job) (now : Instant) :
    Ends s (reconcile settings key now) (.ok { action := .requeue settleDelay })
      ((s.stocked (jobKey key) (job.accepted key.ns s.nextVersion)).record
        (.jobCreated (jobKey key))) := by
  have hkey := ownedBuilderJob_key built hk
  obtain ⟨next, hcall, hnext⟩ := reconcileJobless_of_built key unfinished built now
  refine ends_jobless hq hb alive held vacant ?_
  rw [hcall, ← hkey]
  refine .call hq (.jobCreated (hkey ▸ vacant)) ?_
  rw [hnext]
  exact ends_done_iff.mpr ⟨rfl, rfl⟩

theorem settling_unfinished (hq : s.Quiet) (hk : snapshotKey b = key)
    (hb : s.imageBuilds.get? key = some b) (alive : ¬ b.isBeingDeleted) (held : b.hasFinalizer)
    (vacant : s.jobs.get? (jobKey key) = none) (unfinished : ¬ b.recorded.phase.isTerminal) :
    Settling settings key 2 s := by
  cases hj : ownedBuilderJob b settings with
  | error e => exact (settling_unbuildable hq hb alive held vacant unfinished hj).mono
  | ok job =>
    have staying : ¬ (job.accepted key.ns s.nextVersion).metadata.isBeingDeleted := by
      obtain ⟨_, _, _, -, -, -, hm⟩ := ownedBuilderJob_metadata hj
      simp [Job.accepted, hm, Metadata.isBeingDeleted]
    refine Or.inr fun now => ?_
    have hends := ends_creating hq hk hb alive held vacant unfinished hj now
    exact ⟨_, _, _, hends, rfl, settling_observed ⟨hq.failures, hq.stalled⟩ hb alive held
      (Table.get?_put_self _ _ _) staying⟩

/-- A guarded image build without a job, or with one that stays, settles after two changes. -/
theorem settling_guarded (hq : s.Quiet) (hk : snapshotKey b = key)
    (hb : s.imageBuilds.get? key = some b) (alive : ¬ b.isBeingDeleted) (held : b.hasFinalizer)
    (hj : ∀ job, s.jobs.get? (jobKey key) = some job → ¬ job.metadata.isBeingDeleted) :
    Settling settings key 2 s := by
  cases hjob : s.jobs.get? (jobKey key) with
  | some job => exact (settling_observed hq hb alive held hjob (hj job hjob)).mono
  | none =>
    by_cases terminal : b.recorded.phase.isTerminal
    · exact (settling_finished hq hb alive held hjob terminal).mono
    · exact settling_unfinished hq hk hb alive held hjob terminal

theorem ends_adding (hq : s.Quiet) (hb : s.imageBuilds.get? (snapshotKey b) = some b)
    (alive : ¬ b.isBeingDeleted) (bare : ¬ b.hasFinalizer) (now : Instant) :
    Ends s (reconcile settings (snapshotKey b) now) (.ok { action := .requeue settleDelay })
      ((s.replaced (snapshotKey b) (b.written
        (Store.withFinalizer b.metadata.finalizerList ImageBuild.operatorFinalizer)
          s.nextVersion)).record (.finalizerAdded (snapshotKey b))) := by
  refine ends_read hq hb ?_
  rw [reconcileRead, if_neg alive, if_pos (by simpa using bare)]
  exact .call hq (.finalizerAdded hb fun _ => rfl) (ends_done_iff.mpr ⟨rfl, rfl⟩)

/-- Where the finalizer is missing it is added first. -/
theorem settling (hq : s.Quiet) (hs : s.WellKeyed) (hb : s.imageBuilds.get? key = some b)
    (alive : ¬ b.isBeingDeleted)
    (hj : ∀ job, s.jobs.get? (jobKey key) = some job → ¬ job.metadata.isBeingDeleted) :
    Settling settings key 3 s := by
  obtain rfl := hs key b hb
  by_cases held : b.hasFinalizer
  · exact (settling_guarded hq rfl hb alive held hj).mono
  · refine Or.inr fun now => ⟨_, _, _, ends_adding hq hb alive held now, rfl, ?_⟩
    exact settling_guarded (b := b.written _ _) ⟨hq.failures, hq.stalled⟩ rfl
      (Table.get?_put_self _ _ _) alive
      (by simp [ImageBuild.written_hasFinalizer, Store.mem_withFinalizer]) hj

/-- Wherever nothing fails or hangs, and whatever the image build and its builder job say, invocations
at any times make three changes at most, first one each and then none, and from then on each waits for
a change and leaves everything as it is. -/
theorem reconciliation_converges (settings : BuilderSettings) (hs : s.WellKeyed) (hq : s.Quiet)
    (hb : s.imageBuilds.get? key = some b) (alive : ¬ b.isBeingDeleted)
    (hj : ∀ job, s.jobs.get? (jobKey key) = some job → ¬ job.metadata.isBeingDeleted)
    (clock : Nat → Instant) : ∃ m ≤ 3, Converges settings key clock s m :=
  (settling hq hs hb alive hj).converges clock

def newImageBuild : ImageBuild :=
  { plainImageBuild with metadata := { plainImageBuild.metadata with finalizers := none } }

/-- A new image build comes to rest while its job is running, and three changes are needed for that. -/
theorem new_image_build_converges :
    let key : Key := ⟨"images", "web"⟩
    let s := ({} : Store).addImageBuild newImageBuild
    let clock : Nat → Instant := fun n => ⟨n, 0⟩
    (∃ m ≤ 3, Converges {} key clock s m) ∧ (invoked {} key clock s 3).events =
      [.finalizerAdded key, .jobCreated (jobKey key), .statusPatched key] := by
  intro key s clock
  refine ⟨reconciliation_converges {} (.added .empty newImageBuild) ⟨rfl, rfl⟩ rfl ?_ ?_ clock,
    by decide +kernel⟩
  · exact Bool.false_ne_true
  · intro job hjob
    cases hjob

end ImageForge.Controller
