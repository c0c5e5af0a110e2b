import ImageForge.Log
import ImageForge.Worker.Command
/-!
Procedures: commands, with what follows each answer, and log entries in between. A procedure is data;
`perform` runs it against any runner and records what happened.
-/

namespace ImageForge.Worker

inductive Procedure (α : Type)
  | done (result : Except BuildError α)
  | note (entry : LogEntry) (rest : Procedure α)
  | run (command : Command) (next : Except BuildError String → Procedure α)

namespace Procedure

variable {α β : Type}

/-- Goes on with the result of a procedure, whatever it is. -/
def andThen : Procedure α → (Except BuildError α → Procedure β) → Procedure β
  | .done r, k => k r
  | .note e p, k => .note e (p.andThen k)
  | .run c next, k => .run c fun answer => (next answer).andThen k

/-- Goes on with the value of a procedure; an error ends it. -/
def bind (p : Procedure α) (k : α → Procedure β) : Procedure β :=
  p.andThen fun
    | .ok a => k a
    | .error e => .done (.error e)

instance : Monad Procedure where
  pure a := .done (.ok a)
  bind := bind

def fail (e : BuildError) : Procedure α := .done (.error e)

/-- Runs a command for its output. -/
def command (c : Command) : Procedure String := .run c .done

/-- Runs a command for its effect. -/
def execute (c : Command) : Procedure Unit := .run c fun answer => .done (answer.map fun _ => ())

def log (entry : LogEntry) : Procedure Unit := .note entry (.done (.ok ()))

end Procedure

/-- A runner answers a command with its output or an error, knowing the commands before it. -/
abbrev Runner := List Command → Command → Except BuildError String

/-- What happened in a run: the commands and the log in order, and the result. -/
structure Record (α : Type) where
  commands : List Command
  log : List LogEntry
  result : Except BuildError α

/-- What is noted before a command runs. -/
def Command.entry (c : Command) : LogEntry :=
  ⟨.debug, "builder::runner", "Running " ++ c.line, []⟩

/-- Runs a procedure after some earlier commands. -/
def perform {α : Type} (runner : Runner) (earlier : List Command) : Procedure α → Record α
  | .done r => ⟨[], [], r⟩
  | .note e p =>
    let rest := perform runner earlier p
    { rest with log := e :: rest.log }
  | .run c next =>
    let rest := perform runner (earlier ++ [c]) (next (runner earlier c))
    { rest with commands := c :: rest.commands, log := c.entry :: rest.log }

end ImageForge.Worker
