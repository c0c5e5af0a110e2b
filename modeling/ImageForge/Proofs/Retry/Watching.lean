import ImageForge.Controller.Watch
import ImageForge.Proofs.Retry.Delays

/-! The watching controller only does such work as the delays are known for. -/
namespace ImageForge.Controller

open Cluster

/-- An image build with a name, and a namespace as namespaces are. -/
def Named (b : ImageBuild) : Prop := ∃ key, watchedKey b = .ok key ∧ key.WellFormed

def WatchEvent.Named : WatchEvent → Prop
  | .present b => Controller.Named b
  | .gone _ | .job _ => True

variable {config : Config} {history : List Happening} {o : Operator} {b : ImageBuild}

theorem Works.attempted (hw : Works config history o) (hb : Named b) (now : Instant) :
    ∃ history', Works config history' (o.attempt b now).operator := by
  obtain ⟨key, hkey, hwf⟩ := hb
  cases hr : (o.attempt b now).result with
  | ok action => exact ⟨_, hw.succeeds hkey hwf hr⟩
  | error e => exact ⟨_, hw.fails hr⟩

theorem Works.answered (hw : Works config history o) (hb : Named b) (e : ControllerError) :
    ∃ history', Works config history' (o.failurePolicy b e).2 := by
  obtain ⟨key, hkey, hwf⟩ := hb
  exact ⟨_, hw.answers hkey hwf e⟩

namespace Watcher

variable {w w' : Watcher} {event : WatchEvent} {horizon : Nat}

theorem mem_of_firstDeadline? : ∀ hung, w.firstDeadline? = some hung → hung ∈ w.hanging := by
  refine List.foldlRecOn (motive := fun best => ∀ hung, best = some hung → hung ∈ w.hanging)
    w.hanging _ ?_ ?_
  · intro hung h
    cases h
  · intro best hbest next hnext hung h
    split at h
    next =>
      cases h
      exact hnext
    next =>
      split at h
      next =>
        cases h
        exact hnext
      next => exact hbest hung h

/-- A watcher whose operator works, and for which everything that it watches or waits for is named. -/
structure Orderly (config : Config) (w : Watcher) : Prop where
  works : ∃ history, Works config history w.operator
  watched : ∀ entry ∈ w.watched, Named entry.2
  hanging : ∀ h ∈ w.hanging, Named h.build

namespace Orderly

theorem meanwhile (h : Orderly config w) (s : Store) :
    Orderly config { w with operator := { w.operator with store := s } } where
  works := h.works.imp fun _ hw => hw.meanwhile s
  watched := h.watched
  hanging := h.hanging

theorem request (h : Orderly config w) (ref : ObjectRef) (time : Nat) :
    Orderly config (w.request ref time) := ⟨h.works, h.watched, h.hanging⟩

theorem observe (h : Orderly config w) (hevent : event.Named) : Orderly config (w.observe event) := by
  unfold Watcher.observe
  split
  · exact h
  · cases event with
    | present b =>
      let ref := ObjectRef.ofImageBuild b
      have hseen : Orderly config
          { w with watched := (ref, b) :: w.watched.filter (·.1 ≠ ref) } := {
        works := h.works
        watched := List.forall_mem_cons.mpr
          ⟨hevent, fun entry hentry => h.watched entry (List.mem_of_mem_filter hentry)⟩
        hanging := h.hanging }
      exact hseen.request ref w.now
    | gone ref =>
      exact {
        works := h.works
        watched := fun entry hentry => h.watched entry (List.mem_of_mem_filter hentry)
        hanging := h.hanging }
    | job j => exact List.foldlRecOn _ _ h fun _ hw ref _ => hw.request ref _

theorem conclude (h : Orderly config w) (hb : Named b) (ref : ObjectRef)
    (result : Except ControllerError Action) : Orderly config (w.conclude ref b result) := by
  obtain ⟨history, hworks⟩ := h.works
  cases result with
  | ok action =>
    cases action with
    | awaitChange => exact h
    | requeue seconds => exact h.request ref _
  | error e =>
    have hanswered : Orderly config { w with operator := (w.operator.failurePolicy b e).2 } :=
      { works := hworks.answered hb e, watched := h.watched, hanging := h.hanging }
    cases haction : (w.operator.failurePolicy b e).1 with
    | awaitChange => simpa [Watcher.conclude, haction] using hanswered
    | requeue seconds => simpa [Watcher.conclude, haction] using hanswered.request ref _

theorem run (h : Orderly config w) (ref : ObjectRef) : Orderly config (w.run ref) := by
  obtain ⟨history, hworks⟩ := h.works
  unfold Watcher.run
  split
  next => exact h
  next seen b hfound =>
    have hb : Named b := h.watched _ (List.mem_of_find?_eq_some hfound)
    have hattempted := hworks.attempted hb (w.clock w.readings)
    dsimp only
    split
    next => exact {
      works := hattempted
      watched := h.watched
      hanging := List.forall_mem_append.mpr ⟨h.hanging, List.forall_mem_singleton.mpr hb⟩ }
    next =>
      refine conclude ?_ hb ref _
      exact ⟨hattempted, h.watched, h.hanging⟩

theorem expire (h : Orderly config w) {hung : Hanging} (hb : Named hung.build) :
    Orderly config (w.expire hung) := by
  have hothers : ∀ other ∈ w.hanging.filter (·.ref ≠ hung.ref), Named other.build :=
    fun other hother => h.hanging other (List.mem_of_mem_filter hother)
  refine conclude ?_ hb hung.ref hung.result
  exact ⟨h.works, h.watched, hothers⟩

theorem takeUp (h : Orderly config w) (ref : ObjectRef) (time : Nat) :
    Orderly config (w.takeUp ref time) := by
  unfold Watcher.takeUp
  dsimp only
  split
  next =>
    refine run ?_ ref
    exact ⟨h.works, h.watched, h.hanging⟩
  next => exact ⟨h.works, h.watched, h.hanging⟩

/-- Whatever a watcher does next, it stays orderly. -/
theorem step (h : Orderly config w) (hstep : w.step? horizon = some w') : Orderly config w' := by
  have hexpire : ∀ hung, w.firstDeadline?.filter (·.deadline < horizon) = some hung →
      Orderly config (w.expire hung) := fun hung hfirst =>
    h.expire (h.hanging hung (mem_of_firstDeadline? hung (Option.eq_some_of_filter_eq_some hfirst)))
  unfold step? at hstep
  split at hstep
  next ref _ =>
    cases hstep
    refine run ?_ ref
    exact ⟨h.works, h.watched, h.hanging⟩
  next =>
    dsimp only at hstep
    split at hstep
    next => cases hstep
    next hung hfirst _ =>
      cases hstep
      exact hexpire hung hfirst
    next ref time _ _ =>
      cases hstep
      exact h.takeUp ref time
    next hung ref time hfirst _ =>
      split at hstep
      · cases hstep
        exact hexpire hung hfirst
      · cases hstep
        exact h.takeUp ref time

theorem advance (h : Orderly config w) (horizon steps : Nat) :
    Orderly config (w.advance horizon steps) := by
  induction steps generalizing w with
  | zero => exact ⟨h.works, h.watched, h.hanging⟩
  | succ steps ih =>
    unfold Watcher.advance
    split
    next w' hstep => exact ih (h.step hstep)
    next => exact ⟨h.works, h.watched, h.hanging⟩

theorem stop (h : Orderly config w) : Orderly config w.stop := by
  have hdropped : Orderly config { w with schedule := {} } := ⟨h.works, h.watched, h.hanging⟩
  exact List.foldlRecOn _ _ hdropped fun _ hw hung hhung => hw.expire (h.hanging hung hhung)

end Orderly

/-- A watcher that has begun without any delays, and what it can come to: it sees named image builds
and their jobs, its watches break off, the cluster changes, time passes, and it stops. -/
inductive Lives (config : Config) : Watcher → Prop
  | begins (s : Store) (clock : Nat → Instant) :
      Lives config { operator := { config, store := s }, clock }
  | observes {w : Watcher} {event : WatchEvent} (before : Lives config w) (hevent : event.Named) :
      Lives config (w.observe event)
  | loses {w : Watcher} (before : Lives config w) : Lives config { w with connected := false }
  | meanwhile {w : Watcher} (before : Lives config w) (s : Store) :
      Lives config { w with operator := { w.operator with store := s } }
  | advances {w : Watcher} (before : Lives config w) (horizon steps : Nat) :
      Lives config (w.advance horizon steps)
  | stops {w : Watcher} (before : Lives config w) : Lives config w.stop

/-- At any time of its life a watcher has done nothing but work, so its delays are those that the
failures of each image build have led to. -/
theorem Lives.works (h : Lives config w) :
    ∃ history, Works config history w.operator ∧ Tracks config history w.operator.retries := by
  have horderly : Orderly config w := by
    induction h with
    | begins s clock =>
      exact { works := ⟨[], .begins s⟩, watched := by simp, hanging := by simp }
    | observes _ hevent ih => exact ih.observe hevent
    | loses _ ih => exact ⟨ih.works, ih.watched, ih.hanging⟩
    | meanwhile _ s ih => exact ih.meanwhile s
    | advances _ horizon steps ih => exact ih.advance horizon steps
    | stops _ ih => exact ih.stop
  exact horderly.works.imp fun _ hw => ⟨hw, hw.tracks.2⟩

end Watcher

end ImageForge.Controller
