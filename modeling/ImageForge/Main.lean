import ImageForge.Controller.Startup
import ImageForge.Log.Filter
import ImageForge.Schema.Definition
import ImageForge.Worker.Build
/-!
The command line: the definition of the resource, the configuration of the controller, or a build
whose commands are carried out by the reader of the output.
-/

namespace ImageForge.CommandLine

def usage : String :=
  "usage: imageforge definition | configuration | build\n"

/-- The variables of the environment that any command reads. -/
def variableNames : List String :=
  Worker.orderVariables ++ [
    Log.Filter.variableName, "BUILDER_IMAGE", "BUILDER_IMAGE_PULL_POLICY", "WATCH_NAMESPACE", "RECONCILE_TIMEOUT_SECS",
    "RECONCILE_DEBOUNCE_SECS", "RECONCILE_CONCURRENCY", "HEALTH_ADDR"]

def readEnvironment : IO (String → Option String) := do
  let values ← variableNames.mapM fun name => do return (name, ← IO.getEnv name)
  return fun name => (values.find? (·.1 = name)).bind (·.2)

/-- The lines of the entries that a filter shows. -/
def shownLines (filter : Log.Filter) (log : List LogEntry) : List String :=
  LogEntry.lines (log.filter filter.shows)

/-- Prints the commands of a procedure, and takes the line that follows each as its output. -/
def carryOut {α : Type} (filter : Log.Filter) (input : IO.FS.Stream) :
    Worker.Procedure α → IO (Except Worker.BuildError α)
  | .done result => return result
  | .note entry rest => do
    (shownLines filter [entry]).forM fun line => IO.eprintln line
    carryOut filter input rest
  | .run command next => do
    IO.println command.line
    carryOut filter input (next (.ok (← input.getLine)))

def build : IO UInt32 := do
  let environment ← readEnvironment
  let filter := Log.Filter.read environment
  match ← carryOut filter (← IO.getStdin) (Worker.session environment none) with
  | .ok _ => return 0
  | .error e =>
    IO.eprintln ("Error: " ++ e.diagnostic)
    return 1

def configuration : IO UInt32 := do
  let environment ← readEnvironment
  let (log, result) := Controller.start environment
  (shownLines (Log.Filter.read environment) log).forM fun line => IO.println line
  match result with
  | .ok _ => return 0
  | .error e =>
    IO.eprintln ("Error: " ++ e.message?.getD "")
    return 1

end ImageForge.CommandLine

open ImageForge in
def main (args : List String) : IO UInt32 := do
  match args with
  | ["definition"] =>
    IO.println ImageBuild.definition.render
    return 0
  | ["configuration"] => CommandLine.configuration
  | ["build"] => CommandLine.build
  | _ =>
    IO.eprint CommandLine.usage
    return 2
