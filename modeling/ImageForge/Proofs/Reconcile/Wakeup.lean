import ImageForge.Proofs.Reconcile.Rest
import ImageForge.Proofs.Reconcile.StatusHistory

/-! An invocation that waits for a change has left nothing to do, and one that asks for another look has
a reason to. -/
namespace ImageForge.Controller

open Cluster Reconciliation

variable {settings : BuilderSettings} {outside : Store → Store → Prop} {key : Key} {now : Instant}
  {s t u : Store} {w w' : World} {b : ImageBuild} {job : Job} {status : ImageBuildStatus}
  {v : Verdict} {result : Except ControllerError Verdict} {r : Request} {seconds : Nat}

/-- The image build of a key has been told a status, and the jobs are the same. -/
structure Told (key : Key) (b : ImageBuild) (status : ImageBuildStatus) (s u : Store) : Prop where
  stored : ∃ c, u.imageBuilds.get? key = some c ∧ c.IsWith b status
  jobs : u.jobs = s.jobs

theorem Told.of_eq (hb : s.imageBuilds.get? key = some b) (h : b.recorded = status) :
    Told key b status s s := ⟨⟨b, hb, h ▸ .refl b⟩, rfl⟩

theorem Told.patched (key : Key) (b : ImageBuild) (status : ImageBuildStatus) (s : Store) :
    Told key b status s ((s.replaced key (b.patched status s.nextVersion)).record
      (.statusPatched key)) :=
  ⟨⟨_, Table.get?_put_self _ _ _, b.patched_isWith status _⟩, rfl⟩

theorem Told.absent (h : Told key b (Finding.absent.status key b now) s u)
    (alive : ¬ b.isBeingDeleted) (held : b.hasFinalizer)
    (vacant : s.jobs.get? (jobKey key) = none) (terminal : b.recorded.phase.isTerminal) :
    AtRest key u := by
  obtain ⟨c, hc, hcb⟩ := h.stored
  have hphase : c.recorded.phase = b.recorded.phase := by
    rw [hcb.recorded]
    rfl
  exact .finished hc (hcb.isBeingDeleted ▸ alive) (hcb.hasFinalizer.trans held) (h.jobs ▸ vacant)
    (hphase ▸ terminal) (Finding.absent_told hcb)

theorem Told.observed (h : Told key b ((Finding.observed job).status key b now) s u)
    (alive : ¬ b.isBeingDeleted) (held : b.hasFinalizer)
    (there : s.jobs.get? (jobKey key) = some job) (staying : ¬ job.metadata.isBeingDeleted) :
    AtRest key u := by
  obtain ⟨c, hc, hcb⟩ := h.stored
  exact .observed hc (hcb.isBeingDeleted ▸ alive) (hcb.hasFinalizer.trans held) (h.jobs ▸ there)
    staying (Finding.observed_told hcb)

/-- An invocation that ends well has had its call succeed. -/
theorem ask_ok {next : r.Reply → Reconciliation} (h : Ends s (ask r next) (.ok v) u) :
    ∃ x t, Store.Success s r x t ∧ Ends t (next x) (.ok v) u := by
  obtain ⟨a, t, ha, h⟩ := ends_call_iff.mp h
  obtain ⟨e, rfl, -⟩ | ⟨x, rfl, hx⟩ := Store.answer_cases ha
  · cases (ends_done_iff.mp h).1
  · exact ⟨x, t, hx, h⟩

theorem persist_ok (hb : s.imageBuilds.get? key = some b)
    (h : Ends s (persist key (b.status.getD {}) status (.done result)) (.ok v) u) :
    result = .ok v ∧ Told key b status s u := by
  unfold persist at h
  split at h
  next hsame =>
    obtain ⟨hresult, rfl⟩ := ends_done_iff.mp h
    exact ⟨hresult, .of_eq hb hsame⟩
  next =>
    obtain ⟨_, t, hpatched, h⟩ := ask_ok h
    obtain ⟨hresult, rfl⟩ := ends_done_iff.mp h
    cases hpatched with
    | statusPatched _ stored =>
      cases stored.symm.trans hb
      exact ⟨hresult, .patched key b status s⟩

/-- How an invocation that nothing disturbs may end. -/
inductive Justified (key : Key) (s u : Store) : Action → Prop
  | rest (rest : AtRest key u) : Justified key s u .awaitChange
  | changed {e} (seconds : Nat) (made : u.events = s.events ++ [e]) :
      Justified key s u (.requeue seconds)
  | dying {job : Job} (seconds : Nat) (there : u.jobs.get? (jobKey key) = some job)
      (dying : job.metadata.isBeingDeleted) : Justified key s u (.requeue seconds)

theorem Justified.of_change {e : Event} (he : r.event? = some e)
    (h : Ends s (ask r fun _ => settle (.requeue seconds)) (.ok v) u) :
    Justified key s u v.action := by
  obtain ⟨x, t, hx, h⟩ := ask_ok h
  obtain ⟨hv, rfl⟩ := ends_done_iff.mp h
  cases hv
  refine .changed (e := e) seconds ?_
  rw [hx.events, he]
  rfl

theorem reconcileJobless_justified (hk : snapshotKey b = key)
    (hb : s.imageBuilds.get? key = some b) (alive : ¬ b.isBeingDeleted) (held : b.hasFinalizer)
    (vacant : s.jobs.get? (jobKey key) = none)
    (h : Ends s (reconcileJobless settings key b now) (.ok v) u) : Justified key s u v.action := by
  by_cases terminal : b.recorded.phase.isTerminal
  · rw [reconcileJobless_of_terminal key terminal] at h
    obtain ⟨hv, htold⟩ := persist_ok hb h
    cases hv
    exact .rest (htold.absent alive held vacant terminal)
  · cases built : ownedBuilderJob b settings with
    | error e =>
      rw [reconcileJobless_of_unbuildable key terminal built] at h
      cases (persist_ok hb h).1
    | ok job =>
      have hopen : ¬ (b.status.getD {}).phase.isTerminal := terminal
      rw [reconcileJobless, if_neg hopen, startJob, built] at h
      obtain ⟨a, t, ha, h⟩ := ends_call_iff.mp h
      obtain ⟨e, rfl, hsame⟩ | ⟨x, rfl, hx⟩ := Store.answer_cases ha
      · cases e with
        | alreadyExists what =>
          -- No job was there, so there is nobody to lose a race against.
          refine absurd ?_ (Store.answer_alreadyExists ha)
          rw [ownedBuilderJob_key built hk]
          exact vacant
        | invalid why => cases (persist_ok (hsame.imageBuilds ▸ hb) h).1
        | failure _ | notFound _ | conflict _ | serialization | api _ =>
          cases (ends_done_iff.mp h).1
      · obtain ⟨hv, rfl⟩ := ends_done_iff.mp h
        cases hv
        exact .changed _ hx.events

theorem reconcileGuarded_justified (hk : snapshotKey b = key)
    (hb : s.imageBuilds.get? key = some b) (alive : ¬ b.isBeingDeleted) (held : b.hasFinalizer)
    (h : Ends s (reconcileGuarded settings key b now) (.ok v) u) : Justified key s u v.action := by
  obtain ⟨found, t, hread, h⟩ := ask_ok h
  cases hread with
  | jobRead stored =>
    cases found with
    | none => exact reconcileJobless_justified hk hb alive held stored h
    | some job =>
      by_cases hd : job.metadata.isBeingDeleted
      · simp only [if_pos hd] at h
        obtain ⟨hv, htold⟩ := persist_ok hb h
        cases hv
        exact .dying _ (htold.jobs ▸ stored) hd
      · simp only [if_neg hd] at h
        obtain ⟨hv, htold⟩ := persist_ok hb h
        cases hv
        exact .rest (htold.observed alive held stored hd)

theorem removed_atRest {x : Unit} (hk : snapshotKey b = key) (hb : s.imageBuilds.get? key = some b)
    (deleted : b.isBeingDeleted)
    (h : Store.Success s (.removeFinalizer b ImageBuild.operatorFinalizer) x u) : AtRest key u := by
  subst hk
  cases h with
  | finalizerRemoved stored _ _ =>
    cases stored.symm.trans hb
    refine .released (Table.get?_put_self _ _ _) deleted ?_
    simp [ImageBuild.written_hasFinalizer, Store.withoutFinalizer]
  | released _ _ _ _ =>
    refine .missing ?_
    simp [Store.removed, Store.record]

theorem reconcileDeleted_justified (hk : snapshotKey b = key)
    (hb : s.imageBuilds.get? key = some b) (deleted : b.isBeingDeleted)
    (h : Ends s (reconcileDeleted key b) (.ok v) u) : Justified key s u v.action := by
  unfold reconcileDeleted at h
  split at h
  next hbare =>
    obtain ⟨hv, rfl⟩ := ends_done_iff.mp h
    cases hv
    exact .rest (.released hb deleted (by simpa using hbare))
  next hheld =>
    obtain ⟨found, t, hread, h⟩ := ask_ok h
    cases hread with
    | jobRead stored =>
      cases found with
      | none =>
        obtain ⟨_, t, hremoved, h⟩ := ask_ok h
        obtain ⟨hv, rfl⟩ := ends_done_iff.mp h
        cases hv
        exact .rest (removed_atRest hk hb deleted hremoved)
      | some job =>
        by_cases hd : job.metadata.isBeingDeleted
        · simp only [if_pos hd] at h
          obtain ⟨hv, rfl⟩ := ends_done_iff.mp h
          cases hv
          exact .dying _ stored hd
        · simp only [if_neg hd] at h
          exact .of_change rfl h

/-- An invocation that nothing disturbs waits for a change only when nothing is left to do, and asks for
another look only after a change or while the job is terminating. -/
theorem reconcile_justified (hs : s.WellKeyed)
    (h : Ends s (reconcile settings key now) (.ok v) u) : Justified key s u v.action := by
  obtain ⟨found, t, hread, h⟩ := ask_ok h
  cases hread with
  | imageBuildRead stored =>
    cases found with
    | none =>
      obtain ⟨hv, rfl⟩ := ends_done_iff.mp h
      cases hv
      exact .rest (.missing stored)
    | some b =>
      have hk := hs key b stored
      replace h : Ends s (reconcileRead settings key b now) (.ok v) u := h
      by_cases hd : b.isBeingDeleted
      · rw [reconcileRead, if_pos hd] at h
        exact reconcileDeleted_justified hk stored hd h
      · by_cases hf : b.hasFinalizer
        · rw [reconcileRead_of_guarded key hd hf] at h
          exact reconcileGuarded_justified hk stored hd hf h
        · rw [reconcileRead, if_neg hd, if_pos (by simpa using hf)] at h
          exact .of_change rfl h

/-- What an invocation has been told that asks for another look. -/
inductive Prompt (key : Key) (heard : List Exchange) : Prop
  | changed {x e} (answered : x ∈ heard) (made : x.event? = some e)
  | raced {ns what} {job : Job}
      (answered : ⟨.createJob ns job, .error (.alreadyExists what)⟩ ∈ heard)
  | dying {job : Job} (saw : sawJob key (some job) ∈ heard) (dying : job.metadata.isBeingDeleted)

theorem persist_done {current desired : ImageBuildStatus}
    (h : persist key current desired (.done result) = .done (.ok v)) : result = .ok v := by
  unfold persist at h
  split at h
  · exact Program.done.inj h
  · cases h

theorem reconcileRead_not_requeued (h : reconcileRead settings key b now = .done (.ok v)) :
    v.action ≠ .requeue seconds := by
  intro hr
  unfold reconcileRead at h
  split at h
  · unfold reconcileDeleted at h
    split at h
    · cases h
      cases hr
    · cases h
  · split at h <;> cases h

theorem reconcileJobless_not_requeued (h : reconcileJobless settings key b now = .done (.ok v)) :
    v.action ≠ .requeue seconds := by
  intro hr
  by_cases terminal : (b.status.getD {}).phase.isTerminal
  · rw [reconcileJobless_of_terminal key terminal] at h
    cases persist_done h
    cases hr
  · cases built : ownedBuilderJob b settings with
    | error e =>
      rw [reconcileJobless_of_unbuildable key terminal built] at h
      cases persist_done h
    | ok job =>
      obtain ⟨next, hcall, -⟩ := reconcileJobless_of_built key terminal built now
      cases hcall.symm.trans h

theorem Stage.raced_of_error {heard : List Exchange} {next : Answer r → Reconciliation}
    {e : ClusterError} (h : Stage settings key now heard (.call r next))
    (hv : next (.error e) = .done (.ok v)) :
    ∃ ns job what,
      (⟨r, .error e⟩ : Exchange) = ⟨.createJob ns job, .error (.alreadyExists what)⟩ := by
  cases h with
  | creating _ _ _ built rest =>
    rw [startJob, built] at rest
    cases rest
    cases e with
    | alreadyExists what => exact ⟨_, _, what, rfl⟩
    | invalid why => cases persist_done hv
    | failure _ | notFound _ | conflict _ | serialization | api _ => cases hv
  | doomed _ held rest =>
    rw [reconcileDeleted, if_neg (by simpa using held)] at rest
    cases rest
    cases hv
  | start rest | guarded _ _ rest | adding _ _ rest | recording _ _ _ _ rest
  | removing _ _ _ rest | releasing _ _ rest =>
    cases rest
    cases hv

/-- An invocation that asks for another look has been told why by the answer before. -/
theorem Stage.prompted {heard : List Exchange} {next : Answer r → Reconciliation} {a : Answer r}
    (h : Stage settings key now heard (.call r next)) (hv : next a = .done (.ok v))
    (hr : v.action = .requeue seconds) : Prompt key (heard ++ [⟨r, a⟩]) := by
  have hlast : (⟨r, a⟩ : Exchange) ∈ heard ++ [⟨r, a⟩] := by simp
  cases a with
  | error e =>
    obtain ⟨ns, job, what, heq⟩ := h.raced_of_error hv
    rw [heq] at hlast ⊢
    exact .raced hlast
  | ok x =>
    cases h with
    | start rest =>
      cases rest
      cases x with
      | none =>
        cases hv
        cases hr
      | some b => exact absurd hr (reconcileRead_not_requeued hv)
    | guarded _ _ rest =>
      cases rest
      cases x with
      | none => exact absurd hr (reconcileJobless_not_requeued hv)
      | some job =>
        by_cases hd : job.metadata.isBeingDeleted
        · exact .dying hlast hd
        · simp only [if_neg hd] at hv
          cases persist_done hv
          cases hr
    | doomed _ held rest =>
      rw [reconcileDeleted, if_neg (by simpa using held)] at rest
      cases rest
      cases x with
      | none => cases hv
      | some job =>
        by_cases hd : job.metadata.isBeingDeleted
        · exact .dying hlast hd
        · simp only [if_neg hd] at hv
          cases hv
    | creating _ _ _ _ _ | adding _ _ _ | recording _ _ _ _ _ | removing _ _ _ _
    | releasing _ _ _ => exact .changed hlast rfl

/-- Every invocation that asks for another look has been told why. -/
def Prompted (w : World) : Prop :=
  ∀ ⦃key i v seconds⦄, w.active key = some i → i.rest = .done (.ok v) →
    v.action = .requeue seconds → Prompt key i.heard

theorem Prompted.step (h : Prompted w) (hw : Staged settings w)
    (hs : Turn settings outside w w') : Prompted w' := by
  intro key i v seconds hi hv hr
  obtain hold | ⟨now, rfl⟩ | ⟨j, r, next, a, running, pending, -, rfl⟩ := hs.active_inv hi
  · exact h hold hv hr
  · cases hv
  · have hst := hw running
    rw [pending] at hst
    exact hst.prompted hv hr

theorem Prompted.run (hr : Reaches settings outside (.idle s) w) : Prompted w := by
  induction hr with
  | refl =>
    intro key i v seconds hi
    cases hi
  | tail hw hs ih => exact ih.step ((Staged.idle s).run hw) hs

/-- When an invocation that nothing disturbs waits for a change, another one leaves everything as it
is, whenever it looks and whatever fails; and when it asks for another look, it has made a change or the
builder job is terminating. Among others an invocation may also have lost the race to create the job. -/
theorem no_wakeup_lost (settings : BuilderSettings) (key : Key) (hs : s.WellKeyed) :
    (∀ now v u, Ends s (reconcile settings key now) (.ok v) u →
      (v.action = .awaitChange →
        ∀ u' : Store, u'.imageBuilds = u.imageBuilds → u'.jobs = u.jobs →
          ∀ now', Idle u' (reconcile settings key now')) ∧
      ∀ seconds, v.action = .requeue seconds →
        (∃ e, u.events = s.events ++ [e]) ∨
          ∃ job, u.jobs.get? (jobKey key) = some job ∧ job.metadata.isBeingDeleted) ∧
    ∀ outside w i v seconds, Reaches settings outside (.idle s) w → w.active key = some i →
      i.rest = .done (.ok v) → v.action = .requeue seconds → Prompt key i.heard := by
  refine ⟨?_, fun _ _ _ _ _ hr hi hv hsec => Prompted.run hr hi hv hsec⟩
  intro now v u h
  have hjust := reconcile_justified hs h
  constructor
  · intro hv u' hb hj now'
    rw [hv] at hjust
    cases hjust with
    | rest rest => exact (rest.congr hb hj).idle settings now'
  · intro seconds hv
    rw [hv] at hjust
    cases hjust with
    | changed _ made => exact Or.inl ⟨_, made⟩
    | dying _ there dying => exact Or.inr ⟨_, there, dying⟩

theorem plain_look_requested (outside : Store → Store → Prop) :
    ∃ w i, Reaches {} outside (.idle (({} : Store).addImageBuild plainImageBuild)) w ∧
      w.active ⟨"images", "web"⟩ = some i ∧
      i.rest = .done (.ok { action := .requeue settleDelay }) := by
  let key : Key := ⟨"images", "web"⟩
  have hbegun := Relation.ReflTransGen.single (@Turn.begin {} outside
    (.idle (({} : Store).addImageBuild plainImageBuild)) key ⟨0, 0⟩ rfl)
  have hread := hbegun.tail (.call (World.withActive_active_self _ key _) rfl rfl)
  have hlooked := hread.tail (.call (World.withActive_active_self _ key _) rfl rfl)
  have hcreated := hlooked.tail (.call (World.withActive_active_self _ key _) rfl rfl)
  exact ⟨_, _, hcreated, World.withActive_active_self _ key _, rfl⟩

/-- The first invocation for a plain image build has changed something when it asks for another look;
the one that records that the job is running waits, and no later one changes anything. -/
theorem plain_wakeup_kept :
    let key : Key := ⟨"images", "web"⟩
    let s := ({} : Store).addImageBuild plainImageBuild
    s.WellKeyed ∧ startedStore.WellKeyed ∧
      (∃ u, Ends startedStore (reconcile {} key ⟨0, 0⟩) (.ok { action := .awaitChange }) u ∧
        ∀ now, Idle u (reconcile {} key now)) ∧
      (∃ u, Ends s (reconcile {} key ⟨0, 0⟩) (.ok { action := .requeue settleDelay }) u ∧
        ((∃ e, u.events = s.events ++ [e]) ∨
          ∃ job, u.jobs.get? (jobKey key) = some job ∧ job.metadata.isBeingDeleted)) ∧
      ∃ w i, Reaches {} (fun _ _ => True) (.idle s) w ∧ w.active key = some i ∧
        i.rest = .done (.ok { action := .requeue settleDelay }) ∧ Prompt key i.heard := by
  intro key s
  have hs : s.WellKeyed := Store.WellKeyed.empty.added plainImageBuild
  have hstarted : startedStore.WellKeyed := hs.of_eq rfl
  refine ⟨hs, hstarted, ⟨_, ⟨rfl, rfl⟩, ?_⟩, ⟨_, ⟨rfl, rfl⟩, ?_⟩, ?_⟩
  · intro now
    exact ((no_wakeup_lost {} key hstarted).1 ⟨0, 0⟩ _ _ ⟨rfl, rfl⟩).1 rfl _ rfl rfl now
  · exact ((no_wakeup_lost {} key hs).1 ⟨0, 0⟩ _ _ ⟨rfl, rfl⟩).2 settleDelay rfl
  · obtain ⟨w, i, hr, hi, hover⟩ := plain_look_requested (fun _ _ => True)
    exact ⟨w, i, hr, hi, hover,
      (no_wakeup_lost {} key hs).2 _ _ _ _ settleDelay hr hi hover rfl⟩

end ImageForge.Controller
