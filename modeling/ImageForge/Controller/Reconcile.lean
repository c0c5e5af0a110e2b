import ImageForge.Cluster.Request
import ImageForge.Controller.BuilderJob
import ImageForge.Controller.Error
import ImageForge.Controller.Projection
/-!
Reconciliation: one look at an image build and its job, and at most one change. A change ends the
reconciliation, so that the next one sees what was stored.
-/

namespace ImageForge.Controller

open Cluster

/-- What happens to an image build after a reconciliation: nothing until it changes, or another one
after some seconds. -/
inductive Action
  | awaitChange
  | requeue (seconds : Nat)
  deriving DecidableEq, Repr

/-- The outcome of a reconciliation that did not fail. An image build is released when its finalizer
has been removed. -/
structure Verdict where
  action : Action
  released : Bool := false
  deriving DecidableEq, Repr

/-- Seconds until the look that follows a change. -/
def settleDelay : Nat := 1

/-- Seconds between two looks at a job that is terminating. -/
def terminationPoll : Nat := 5

/-- A program that reconciles. -/
abbrev Reconciliation := Program (Except ControllerError Verdict)

namespace Reconciliation

def settle (action : Action) : Reconciliation := .done (.ok { action })

def fail (e : ControllerError) : Reconciliation := .done (.error e)

/-- Makes a call; its error is the error of the reconciliation. -/
def ask (r : Request) (next : r.Reply → Reconciliation) : Reconciliation :=
  .call r fun
    | .ok a => next a
    | .error e => fail (.cluster e)

/-- Stores a status if it differs from the stored one. -/
def persist (key : Key) (current desired : ImageBuildStatus) (next : Reconciliation) :
    Reconciliation :=
  if current = desired then next else ask (.patchStatus key desired) fun _ => next

end Reconciliation

open Reconciliation

/-- The key of the builder job of an image build. -/
def jobKey (key : Key) : Key := ⟨key.ns, builderJobName key.name⟩

/-- An image build that is being deleted loses its job first, and is released when the job is gone. -/
def reconcileDeleted (key : Key) (b : ImageBuild) : Reconciliation :=
  if !b.hasFinalizer then settle .awaitChange
  else
    ask (.getJob (jobKey key)) fun
      | some job =>
        if job.metadata.isBeingDeleted then settle (.requeue terminationPoll)
        else ask (.deleteJob (jobKey key)) fun _ => settle (.requeue terminationPoll)
      | none =>
        ask (.removeFinalizer b ImageBuild.operatorFinalizer) fun _ =>
          .done (.ok { action := .awaitChange, released := true })

/-- Starts the builder job. A job that is there already was started by a reconciliation whose outcome
was not seen yet. A spec that gives no job, and a job that is refused, fail the build. -/
def startJob (settings : BuilderSettings) (key : Key) (b : ImageBuild)
    (current status : ImageBuildStatus) (now : Instant) : Reconciliation :=
  match ownedBuilderJob b settings with
  | .error e =>
    persist key current (status.jobNotConstructed e now) (fail (.jobConstruction e))
  | .ok job =>
    .call (.createJob key.ns job) fun
      | .ok _ | .error (.alreadyExists _) => settle (.requeue settleDelay)
      | .error (.invalid why) =>
        persist key current (status.jobRejected why now) (fail (.cluster (.invalid why)))
      | .error e => fail (.cluster e)

/-- An image build that carries the finalizer: its job is started unless the build is over, and else
its state is recorded. -/
def reconcileGuarded (settings : BuilderSettings) (key : Key) (b : ImageBuild) (now : Instant) :
    Reconciliation :=
  let current := b.status.getD {}
  let status := current.refresh b.metadata.generation now
  ask (.getJob (jobKey key)) fun
    | none =>
      if status.phase.isTerminal then persist key current status (settle .awaitChange)
      else startJob settings key b current status now
    | some job =>
      if job.metadata.isBeingDeleted then
        persist key current status (settle (.requeue terminationPoll))
      else
        persist key current
          (status.jobObserved b (builderJobName key.name) (jobState job) now)
          (settle .awaitChange)

/-- Reconciles the image build of a key, at a time. -/
def reconcile (settings : BuilderSettings) (key : Key) (now : Instant) : Reconciliation :=
  ask (.getImageBuild key) fun
    | none => settle .awaitChange
    | some b =>
      if b.isBeingDeleted then reconcileDeleted key b
      else if !b.hasFinalizer then
        ask (.addFinalizer b ImageBuild.operatorFinalizer) fun _ => settle (.requeue settleDelay)
      else reconcileGuarded settings key b now

end ImageForge.Controller
