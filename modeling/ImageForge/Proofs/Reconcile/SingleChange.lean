import ImageForge.Controller.Operator
import ImageForge.Proofs.Reconcile.Stage

/-! One invocation makes at most one change, with its last call. An invocation that hangs has made
none. -/
namespace ImageForge.Cluster

/-- The answered calls of a run. -/
def Program.exchanges {α : Type} (s : Store) : Program α → List Exchange
  | .done _ => []
  | .call r next =>
    match s.answer r with
    | none => []
    | some (a, s') => ⟨r, a⟩ :: (next a).exchanges s'

def changes (heard : List Exchange) : List Event := heard.filterMap (·.event?)

end ImageForge.Cluster

namespace ImageForge.Controller

open Cluster

/-- A run from a store that makes at most one change, of its own objects and with its last call. -/
structure ChangesAtMostOnce (key : Key) (s : Store) (heard : List Exchange)
    (run : Run (Except ControllerError Verdict)) : Prop where
  calls : run.calls = heard.map (·.request) ∨
    run.result = none ∧ ∃ r, run.calls = heard.map (·.request) ++ [r]
  recorded : run.store.events = s.events ++ changes heard
  atMostOne : (changes heard).length ≤ 1
  own : ∀ e ∈ changes heard, e ∈ ownEvents key
  last : ∀ before x after, heard = before ++ x :: after → x.event?.isSome →
    after = [] ∧ run.calls = (before ++ [x]).map (·.request) ∧ run.result.isSome
  unchanged : changes heard = [] → s.SameObjects run.store
  hanging : run.result = none → s.SameObjects run.store

namespace ChangesAtMostOnce

variable {key : Key} {s t : Store} {heard : List Exchange} {x : Exchange}
  {run : Run (Except ControllerError Verdict)}

theorem cons (h : ChangesAtMostOnce key t heard run) (hs : s.SameObjects t)
    (hx : x.event? = none) :
    ChangesAtMostOnce key s (x :: heard) { run with calls := x.request :: run.calls } := by
  have hc : changes (x :: heard) = changes heard := List.filterMap_cons_none hx
  refine ⟨?_, ?_, ?_, ?_, ?_, ?_, ?_⟩
  · rcases h.calls with hcalls | ⟨hnone, r, hcalls⟩
    · exact Or.inl (by simp [hcalls])
    · exact Or.inr ⟨hnone, r, by simp [hcalls]⟩
  · rw [hc]
    exact h.recorded.trans (congrArg (· ++ changes heard) hs.events)
  · rw [hc]
    exact h.atMostOne
  · rw [hc]
    exact h.own
  · intro before y after heq hy
    cases before with
    | nil =>
      obtain ⟨rfl, -⟩ := List.cons.inj heq
      simp [hx] at hy
    | cons z before =>
      obtain ⟨rfl, hrest⟩ := List.cons.inj heq
      obtain ⟨hafter, hcalls, hresult⟩ := h.last before y after hrest hy
      exact ⟨hafter, by simp [hcalls], hresult⟩
  · intro hnone
    exact hs.trans (h.unchanged (hc ▸ hnone))
  · intro hnone
    exact hs.trans (h.hanging hnone)

theorem single {e : Event} {result : Except ControllerError Verdict} (hx : x.event? = some e)
    (he : e ∈ ownEvents key) (ht : t.events = s.events ++ [e]) :
    ChangesAtMostOnce key s [x] ⟨[x.request], some result, t⟩ := by
  have hc : changes [x] = [e] := by simp [changes, hx]
  refine ⟨Or.inl rfl, ?_, ?_, ?_, ?_, ?_, ?_⟩
  · rw [hc]
    exact ht
  · simp [hc]
  · simpa [hc] using he
  · intro before y after heq hy
    obtain ⟨rfl, rfl, rfl⟩ : before = [] ∧ x = y ∧ after = [] := by
      cases before with
      | nil => simpa using heq
      | cons z before => simp at heq
    exact ⟨rfl, rfl, rfl⟩
  · simp [hc]
  · simp

theorem nothing {calls : List Request} {result : Option (Except ControllerError Verdict)}
    (hc : calls = [] ∨ result = none ∧ ∃ r, calls = [r]) :
    ChangesAtMostOnce key s [] ⟨calls, result, s⟩ where
  calls := hc
  recorded := (List.append_nil s.events).symm
  atMostOne := Nat.zero_le 1
  own := by simp [changes]
  last := by simp
  unchanged _ := .refl s
  hanging _ := .refl s

end ChangesAtMostOnce

variable {settings : BuilderSettings} {key : Key} {now : Instant} {s : Store}

/-- From any point on, an invocation makes at most one change. -/
theorem Stage.changesAtMostOnce {p : Reconciliation} {heard : List Exchange}
    (h : Stage settings key now heard p) (hk : Keyed key heard) (hs : s.WellKeyed) :
    ChangesAtMostOnce key s (p.exchanges s) (p.run s) := by
  induction p generalizing heard s with
  | done result => exact .nothing (Or.inl rfl)
  | call r next ih =>
    cases ha : s.answer r with
    | none =>
      simp only [Program.exchanges, Program.run, ha]
      exact .nothing (Or.inr ⟨rfl, r, rfl⟩)
    | some answered =>
      obtain ⟨a, t⟩ := answered
      simp only [Program.exchanges, Program.run, ha]
      cases he : Exchange.event? ⟨r, a⟩ with
      | none =>
        have hrest := ih a (h.answered a) (hk.answered hs ha) (hs.answer ha)
        exact hrest.cons (Store.answer_sameObjects ha he) he
      | some e =>
        obtain ⟨result, hdone⟩ := h.over_of_event he
        have hr : r.event? = some e := by
          cases a with
          | error _ => cases he
          | ok _ => exact he
        have ht : t.events = s.events ++ [e] := by
          rw [Store.answer_events ha, he]
          rfl
        rw [hdone]
        exact .single he (h.event_mem_ownEvents hk hr) ht

/-- One invocation changes at most one thing, an own one, with its last call; and when its deadline
cuts it off in a call that hangs, nothing has changed. -/
theorem reconcile_changes_at_most_once (settings : BuilderSettings) (key : Key) (now : Instant)
    (hs : s.WellKeyed) :
    ChangesAtMostOnce key s ((reconcile settings key now).exchanges s)
        ((reconcile settings key now).run s) ∧
      ∀ (o : Operator) (b : ImageBuild), o.store = s → (o.attempt b now).timedOut →
        s.SameObjects (o.attempt b now).operator.store := by
  refine ⟨(Stage.first settings key now).changesAtMostOnce (Stage.Keyed.nil key) hs, ?_⟩
  rintro o b rfl htimeout
  cases hw : watchedKey b with
  | error e => simp [Operator.attempt, hw] at htimeout
  | ok k =>
    have hrun := (Stage.first o.config.builder k now).changesAtMostOnce (Stage.Keyed.nil k) hs
    cases hr : ((reconcile o.config.builder k now).run o.store).result with
    | none =>
      have hsame := hrun.hanging hr
      simpa [Operator.attempt, hw, Operator.reconcile, hr] using hsame
    | some outcome =>
      cases outcome <;> simp [Operator.attempt, hw, Operator.reconcile, hr, Except.map] at htimeout

/-- The first invocation for a plain image build creates its job, and does nothing else. -/
theorem plain_image_build_changes_once :
    let s := ({} : Store).addImageBuild plainImageBuild
    let p := reconcile {} ⟨"images", "web"⟩ ⟨0, 0⟩
    s.WellKeyed ∧ changes (p.exchanges s) = [.jobCreated (jobKey ⟨"images", "web"⟩)] ∧
      ChangesAtMostOnce ⟨"images", "web"⟩ s (p.exchanges s) (p.run s) :=
  have hs := Store.WellKeyed.empty.added plainImageBuild
  ⟨hs, rfl, (reconcile_changes_at_most_once {} ⟨"images", "web"⟩ ⟨0, 0⟩ hs).1⟩

end ImageForge.Controller
