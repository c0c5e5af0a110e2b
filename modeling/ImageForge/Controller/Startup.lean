import ImageForge.Controller.Config
import ImageForge.Controller.Error
import ImageForge.Log
/-!
The start of the controller: it reads its configuration and says what it is.
-/

namespace ImageForge.Controller

/-- The part of the program that the controller's entries come from. -/
def logTarget : String := "image_build_controller"

def note (message : String) : LogEntry := ⟨.info, logTarget, message, []⟩

/-- What is said of a configuration. -/
def Config.summary (c : Config) : List LogEntry := [
  note "Configuration:",
  note ("  Builder image: " ++ c.builder.image ++ " (" ++ c.builder.imagePullPolicy ++ ")"),
  note ("  Namespace: " ++ c.watchNamespace.getD "all namespaces"),
  note ("  Reconcile timeout: " ++ toString c.reconcileTimeout ++ "s"),
  note ("  Concurrency: " ++ toString c.concurrency),
  note ("  Health probes: " ++ c.healthAddr.render)]

/-- The log of a start, and the configuration or what is wrong with it. -/
def start (lookup : String → Option String) :
    List LogEntry × Except ControllerError Config :=
  let greeting := note "Starting ImageBuild Controller"
  match Config.read lookup with
  | .error why => ([greeting], .error (.invalidConfig why))
  | .ok c => (greeting :: c.summary, .ok c)

end ImageForge.Controller
