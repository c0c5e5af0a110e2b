import ImageForge.Execution.Signal
import ImageForge.Text.Blank
import ImageForge.Text.Utf8
import ImageForge.Worker.Procedure
/-!
Child processes: how one ends and what it printed, and what a build learns from it.
-/

namespace ImageForge.Execution

inductive ExitStatus
  | exited (code : Nat)
  | signalled (signal : Nat)
  deriving DecidableEq, Repr

def ExitStatus.text : ExitStatus → String
  | .exited code => "exit status: " ++ toString code
  | .signalled n =>
    "signal: " ++ toString n ++
      (match signalName? n with
        | some name => " (" ++ name ++ ")"
        | none => "")

/-- A process that has ended. -/
structure Outcome where
  status : ExitStatus
  stdout : List UInt8
  stderr : List UInt8
  deriving DecidableEq, Repr

/-- The text of an output: the bytes as UTF-8, trimmed. -/
def outputText (bytes : List UInt8) : String := Text.trim (Text.Utf8.decodeLossy bytes)

/-- What a build learns from a command: its output, or why it failed. -/
def answer (c : Worker.Command) : Except Worker.StartFailure Outcome → Except Worker.BuildError String
  | .error reason => .error (.notStarted c.program reason)
  | .ok o =>
    if o.status = .exited 0 then .ok (outputText o.stdout)
    else .error (.commandFailed c.line o.status.text (outputText o.stderr))

end ImageForge.Execution
