import ImageForge.Resource.Job
/-!
How a builder job stands.
-/

namespace ImageForge.Controller

inductive JobState
  | running (startTime : Option Instant)
  | succeeded (startTime completionTime : Option Instant)
  | failed (reason message : String)
  deriving DecidableEq, Repr

def reasonJobFailed : String := "JobFailed"

/-- Whether a counter of a job has counted anything. -/
def isPositive (n : Option Int) : Bool := 0 < n.getD 0

/-- The state of a job. Its conditions come before its counters, failure before success; one failed pod
is a failed job, because a builder job never tries again. Times lose the fraction of their second. -/
def jobState (j : Job) : JobState :=
  match j.failure? with
  | some (reason, message) => .failed (reason.getD reasonJobFailed) (message.getD "")
  | none =>
    match j.status with
    | none => .running none
    | some status =>
      let startTime := status.startTime.map (·.dropFraction)
      if j.isComplete || isPositive status.succeeded then
        .succeeded startTime (status.completionTime.map (·.dropFraction))
      else if isPositive status.failed then .failed reasonJobFailed "builder pod failed"
      else .running startTime

end ImageForge.Controller
