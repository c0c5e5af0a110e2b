import ImageForge.Cluster.Store
import ImageForge.Controller.Retry
/-!
The controller at work on a cluster in memory.
-/

namespace ImageForge.Controller

open Cluster

structure Operator where
  config : Config
  store : Store := {}
  retries : Retries := []

/-- The key of a watched object, which must have a name and a namespace. -/
def watchedKey (b : ImageBuild) : Except ControllerError Key :=
  match b.metadata.name, b.metadata.ns with
  | none, _ => .error (.invalidResource "ImageBuild without name")
  | some name, none =>
    .error (.invalidResource ("ImageBuild " ++ name ++ " without namespace"))
  | some name, some ns => .ok ⟨ns, name⟩

/-- What came of one reconciliation: the calls it made, its result unless it hangs, and the controller
after it. -/
structure Step where
  calls : List Request
  result : Option (Except ControllerError Action)
  operator : Operator

namespace Operator

/-- Reconciles the image build of a key, at a time. -/
def reconcile (o : Operator) (key : Key) (now : Instant) : Step :=
  let run := (Controller.reconcile o.config.builder key now).run o.store
  match run.result with
  | none => ⟨run.calls, none, { o with store := run.store }⟩
  | some outcome =>
    ⟨run.calls, some (outcome.map (·.action)),
      { o with store := run.store, retries := o.retries.afterVerdict key outcome }⟩

/-- What came of an attempt, which is cut off when it hangs. -/
structure Attempt where
  calls : List Request
  timedOut : Bool
  result : Except ControllerError Action
  operator : Operator

/-- Reconciles a watched object. A success forgets the delays of earlier failures. -/
def attempt (o : Operator) (b : ImageBuild) (now : Instant) : Attempt :=
  match watchedKey b with
  | .error e => ⟨[], false, .error e, o⟩
  | .ok key =>
    let step := o.reconcile key now
    match step.result with
    | none => ⟨step.calls, true, .error (.timeout key.text), step.operator⟩
    | some (.error e) => ⟨step.calls, false, .error e, step.operator⟩
    | some (.ok action) =>
      ⟨step.calls, false, .ok action,
        { step.operator with retries := step.operator.retries.reset key.text }⟩

/-- What follows a failed attempt for a watched object. -/
def failurePolicy (o : Operator) (b : ImageBuild) (e : ControllerError) : Action × Operator :=
  let (action, retries) := o.retries.afterFailure o.config (snapshotKey b).text e
  (action, { o with retries })

end Operator

end ImageForge.Controller
