import ImageForge.Controller.Operator
import ImageForge.Controller.Schedule
/-!
Watching: events of image builds and of their jobs ask for reconciliations, which run when they are
due, several at a time but never two of one object, and ask for the next one themselves.
-/

namespace ImageForge.Controller

open Cluster

/-- The object that an event or an owner reference names. -/
structure ObjectRef where
  ns : Option String
  name : String
  deriving DecidableEq, Repr

def ObjectRef.ofImageBuild (b : ImageBuild) : ObjectRef := ⟨b.metadata.ns, b.metadata.displayName⟩

/-- The image builds that own a job, which are in its namespace. -/
def ownerRefs (job : Job) : List ObjectRef :=
  (job.metadata.owners.filter fun o =>
    o.apiVersion = ImageBuild.apiVersion ∧ o.kind = ImageBuild.kind).map
    fun o => ⟨job.metadata.ns, o.name⟩

/-- What a watch tells: an object is there or has changed, or it is gone; or a job of some owners has
changed or is gone. -/
inductive WatchEvent
  | present (b : ImageBuild)
  | gone (ref : ObjectRef)
  | job (j : Job)

/-- A reconciliation that hangs until its deadline. -/
structure Hanging where
  ref : ObjectRef
  build : ImageBuild
  result : Except ControllerError Action
  deadline : Nat

/-- The watching controller at a time. The clock is given by its readings, one an attempt. -/
structure Watcher where
  operator : Operator
  clock : Nat → Instant
  /-- Without its watches it sees nothing. -/
  connected : Bool := true
  now : Nat := 0
  readings : Nat := 0
  watched : List (ObjectRef × ImageBuild) := []
  schedule : Schedule ObjectRef := {}
  hanging : List Hanging := []
  calls : List (Nat × Request) := []

/-- Milliseconds of some seconds. -/
def milliseconds (seconds : Nat) : Nat := seconds * 1000

namespace Watcher

def request (w : Watcher) (ref : ObjectRef) (time : Nat) : Watcher :=
  { w with schedule := w.schedule.request (milliseconds w.operator.config.debounce) ref time }

/-- Takes in an event, if it can be seen. -/
def observe (w : Watcher) (event : WatchEvent) : Watcher :=
  if !w.connected then w
  else match event with
    | .present b =>
      let ref := ObjectRef.ofImageBuild b
      { w with watched := (ref, b) :: w.watched.filter (·.1 ≠ ref) }.request ref w.now
    | .gone ref => { w with watched := w.watched.filter (·.1 ≠ ref) }
    | .job j => (ownerRefs j).foldl (fun w ref => w.request ref w.now) w

/-- Goes on after an attempt has ended: a failure is answered by the policy for failures, and another
attempt is asked for after the delay. -/
def conclude (w : Watcher) (ref : ObjectRef) (b : ImageBuild)
    (result : Except ControllerError Action) : Watcher :=
  let (action, operator) := match result with
    | .ok action => (action, w.operator)
    | .error e => w.operator.failurePolicy b e
  let w := { w with operator }
  match action with
  | .awaitChange => w
  | .requeue seconds => w.request ref (w.now + milliseconds seconds)

/-- Reconciles an object, unless it is no longer watched. -/
def run (w : Watcher) (ref : ObjectRef) : Watcher :=
  match w.watched.find? (·.1 = ref) with
  | none => w
  | some (_, b) =>
    let attempt := w.operator.attempt b (w.clock w.readings)
    let w := { w with
      operator := attempt.operator
      readings := w.readings + 1
      calls := w.calls ++ attempt.calls.map (w.now, ·) }
    if attempt.timedOut then
      let deadline := w.now + milliseconds w.operator.config.reconcileTimeout
      { w with hanging := w.hanging ++ [⟨ref, b, attempt.result, deadline⟩] }
    else w.conclude ref b attempt.result

/-- Whether an object can be reconciled now. -/
def canRun (w : Watcher) (ref : ObjectRef) : Bool :=
  w.hanging.length < w.operator.config.concurrency && !w.hanging.any (·.ref = ref)

/-- The reconciliation whose deadline comes first. -/
def firstDeadline? (w : Watcher) : Option Hanging :=
  w.hanging.foldl (fun best h => match best with
    | none => some h
    | some b => if h.deadline < b.deadline then some h else some b) none

/-- Ends a reconciliation at its deadline. A request that has waited for it stands for the next attempt
too, whatever its delay. -/
def expire (w : Watcher) (h : Hanging) : Watcher :=
  let w := { w with
    now := max w.now h.deadline
    hanging := w.hanging.filter (·.ref ≠ h.ref) }
  w.conclude h.ref h.build h.result

/-- Takes up an object that is due: it runs, or waits until it can. -/
def takeUp (w : Watcher) (ref : ObjectRef) (time : Nat) : Watcher :=
  let w := { w with now := max w.now time }
  if w.canRun ref then { w with schedule := w.schedule.unschedule ref }.run ref
  else { w with schedule := w.schedule.await ref }

/-- Does the next thing that is to be done before a time; `none` when there is nothing. -/
def step? (w : Watcher) (horizon : Nat) : Option Watcher :=
  match w.schedule.waiting.find? w.canRun with
  | some ref => some ({ w with schedule := w.schedule.unwait ref }.run ref)
  | none =>
    let deadline := w.firstDeadline?.filter (·.deadline < horizon)
    let due := w.schedule.first?.filter (·.2 < horizon)
    match deadline, due with
    | none, none => none
    | some h, none => some (w.expire h)
    | none, some (ref, time) => some (w.takeUp ref time)
    | some h, some (ref, time) =>
      if h.deadline ≤ time then some (w.expire h) else some (w.takeUp ref time)

/-- Lets time pass, for a number of steps at most. -/
def advance (w : Watcher) (horizon : Nat) : Nat → Watcher
  | 0 => { w with now := max w.now horizon }
  | steps + 1 =>
    match w.step? horizon with
    | some w => w.advance horizon steps
    | none => { w with now := max w.now horizon }

/-- Stops: what is not running is dropped, and what runs comes to its end. -/
def stop (w : Watcher) : Watcher :=
  w.hanging.foldl (fun w h => w.expire h) { w with schedule := {} }

end Watcher

end ImageForge.Controller
