import ImageForge.Controller.Backoff
import ImageForge.Controller.Config
import ImageForge.Controller.Reconcile
/-!
Retrying: each image build has a sequence of delays of its own, which begins with its first failure
and is forgotten when it succeeds or is released.
-/

namespace ImageForge.Controller

open Cluster

/-- The delays in use, by the key of the image build. -/
abbrev Retries := List (String × Backoff)

namespace Retries

def get? (rs : Retries) (key : String) : Option Backoff := (rs.find? (·.1 = key)).map (·.2)

def put (rs : Retries) (key : String) (b : Backoff) : Retries :=
  match rs with
  | [] => [(key, b)]
  | (k, b') :: rest => if k = key then (key, b) :: rest else (k, b') :: put rest key b

/-- Forgets the delays of an image build. -/
def reset (rs : Retries) (key : String) : Retries := rs.filter (·.1 ≠ key)

/-- The next delay of an image build, in seconds. -/
def nextDelay (config : Config) (rs : Retries) (key : String) : Nat × Retries :=
  let b := (rs.get? key).getD
    (.new (.ofNat config.backoffMin) (.ofNat config.backoffMax))
  (b.next.1.toNat, rs.put key b.next.2)

/-- What follows a failure: another attempt after the next delay, or nothing until the image build
changes. -/
def afterFailure (config : Config) (rs : Retries) (key : String) (e : ControllerError) :
    Action × Retries :=
  if e.isRetryable then
    let (delay, rs) := rs.nextDelay config key
    (.requeue delay, rs)
  else (.awaitChange, rs)

/-- The delays after an outcome of a reconciliation: only a release forgets any. -/
def afterVerdict (rs : Retries) (key : Key) : Except ControllerError Verdict → Retries
  | .ok { released := true, .. } => rs.reset key.text
  | _ => rs

end Retries

end ImageForge.Controller
