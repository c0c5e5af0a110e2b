/-!
What can go wrong in a call to the cluster.
-/

namespace ImageForge.Cluster

/-- An error as the API server reports it. -/
structure ApiStatus where
  code : Nat
  reason : String
  message : String
  deriving DecidableEq, Repr

/-- A call without a usable answer: the server reported an error, or there is no answer to read. -/
inductive Failure
  | status (s : ApiStatus)
  | noAnswer
  deriving DecidableEq, Repr

/-- The code of an error that the server reported. -/
def Failure.code? : Failure → Option Nat
  | .status s => some s.code
  | .noAnswer => none

inductive ClusterError
  | failure (f : Failure)
  | notFound (what : String)
  | conflict (what : String)
  | alreadyExists (what : String)
  | invalid (why : String)
  | serialization
  | api (why : String)
  deriving DecidableEq, Repr

namespace ClusterError

/-- Sorts a failure by its code; `what` names the object of the call. -/
def ofFailure (f : Failure) (what : String) : ClusterError :=
  match f with
  | .noAnswer => .failure f
  | .status s =>
    if s.code = 404 then .notFound what
    else if s.code = 409 then
      if s.reason = "AlreadyExists" then .alreadyExists what else .conflict what
    else if s.code = 400 ∨ s.code = 422 then .invalid (what ++ ": " ++ s.message)
    else .failure f

def isNotFound : ClusterError → Bool
  | .notFound _ => true
  | _ => false

/-- The server refused the request itself, so sending it again cannot help. -/
def isInvalid : ClusterError → Bool
  | .invalid _ => true
  | _ => false

/-- The text of an error, when this library determines all of it. -/
def message? : ClusterError → Option String
  | .failure _ | .serialization => none
  | .notFound what => some ("Not found: " ++ what)
  | .conflict what => some ("Conflict: " ++ what)
  | .alreadyExists what => some ("Already exists: " ++ what)
  | .invalid why => some ("Rejected: " ++ why)
  | .api why => some ("Cluster API error: " ++ why)

end ClusterError

end ImageForge.Cluster
