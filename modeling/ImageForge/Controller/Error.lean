import ImageForge.Cluster.Error
import ImageForge.Controller.Output
/-!
What can go wrong in the controller, and whether trying again can help.
-/

namespace ImageForge.Controller

open Cluster

inductive ControllerError
  | failure (f : Failure)
  | cluster (e : ClusterError)
  | jobConstruction (e : JobError)
  | invalidResource (why : String)
  | invalidConfig (why : String)
  | timeout (key : String)
  | watch (why : String)
  | health (why : String)
  deriving DecidableEq, Repr

namespace ControllerError

/-- Trying again helps unless the image build itself, or the request made from it, is at fault. -/
def isRetryable : ControllerError → Bool
  | .cluster e => !e.isInvalid
  | .failure _ | .timeout _ | .watch _ | .health _ => true
  | .jobConstruction _ | .invalidResource _ | .invalidConfig _ => false

/-- The text of an error, when this library determines all of it. -/
def message? : ControllerError → Option String
  | .failure _ => none
  | .cluster e => e.message?.map ("Cluster error: " ++ ·)
  | .jobConstruction e => some ("Builder job construction failed: " ++ e.message)
  | .invalidResource why => some ("Invalid resource: " ++ why)
  | .invalidConfig why => some ("Invalid configuration: " ++ why)
  | .timeout key => some ("Reconciliation of " ++ key ++ " timed out")
  | .watch why => some ("Resource watch failed: " ++ why)
  | .health why => some ("Health server error: " ++ why)

end ControllerError

end ImageForge.Controller
