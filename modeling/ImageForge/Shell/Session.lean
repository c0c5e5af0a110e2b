import ImageForge.Execution.Signal
import ImageForge.Shell.FileTree
import ImageForge.Shell.Reader
/-!
What a running script has: variables, open descriptors, traps, and everything that its processes share.
Processes take their turns one after the other; what one writes to a pipe waits there for the next.
-/

namespace ImageForge.Shell

structure Variable where
  value : Option String
  exported : Bool := false
  readOnly : Bool := false
  deriving DecidableEq, Repr

/-- What a descriptor leads to. -/
inductive Endpoint
  | channel (number : Nat)
  /-- Takes everything, and has nothing to read. -/
  | nowhere
  /-- Takes nothing. -/
  | full
  /-- A directory, which cannot be read as a file. -/
  | directory
  deriving DecidableEq, Repr

/-- Bytes on their way from writers to readers; what has been written last comes first. -/
structure Channel where
  pending : List Char := []
  arrived : List (List Char) := []
  deriving DecidableEq, Repr

def Channel.push (c : Channel) (text : List Char) : Channel :=
  { c with arrived := text :: c.arrived }

/-- Everything that can be read. -/
def Channel.contents (c : Channel) : List Char := c.pending ++ c.arrived.reverse.flatten

/-- The options of a shell by their letters. -/
structure Options where
  /-- A command that fails ends the script. -/
  errexit : Bool := false
  /-- A parameter that is not set is an error. -/
  nounset : Bool := false
  /-- Commands are shown before they run. -/
  xtrace : Bool := false
  /-- Commands are read and not run. -/
  noexec : Bool := false
  /-- Patterns are not taken for names of files. -/
  noglob : Bool := false
  allexport : Bool := false
  /-- Options that have no effect here. -/
  others : List Char := []
  deriving DecidableEq, Repr

/-- What belongs to one process of a script. -/
structure Context where
  name : String
  arguments : List String := []
  bindings : List (String × Variable) := []
  functions : List (String × Command) := []
  status : Nat := 0
  /-- The line that complaints name. -/
  line : Nat := 1
  /-- The builtin command that complaints name. -/
  builtin : Option String := none
  options : Options := {}
  /-- What is to be done on signals, by their numbers, where 0 is the end of the script. -/
  traps : List (Nat × String) := []
  /-- Signals that were ignored from the start. -/
  ignored : List Nat := []
  descriptors : List (Nat × Endpoint) := []
  /-- The working directory, if anything is known about it. -/
  directory : Option String := none
  /-- How many loops there are around the current command. -/
  loops : Nat := 0
  /-- The variables to be restored after each function that is running. -/
  saved : List (List (String × Option Variable)) := []
  /-- The number of the process, and the one it knows itself by. -/
  process : Nat
  shell : Nat
  lastJob : Option Nat := none
  /-- The status of the last command substitution. -/
  substitutionStatus : Nat := 0
  /-- How far `getopts` has come within an argument. -/
  optionOffset : Nat := 0

/-- A process in the background that has not had its turn, or its status. -/
inductive JobState
  | waiting (command : Command) (context : Context)
  | done (status : Nat) (signal : Option Nat)

structure Job where
  process : Nat
  parent : Nat
  state : JobState

/-- What all processes of a script share. -/
structure Machine where
  channels : List (Nat × Channel) := []
  nextChannel : Nat := 0
  nextProcess : Nat := 0
  jobs : List Job := []
  documents : List (Nat × Word) := []
  documentCount : Nat := 0
  /-- Signals that processes have got and not yet acted on. -/
  signals : List (Nat × Nat) := []
  /-- The traps of processes that wait for others. -/
  outer : List (Nat × List (Nat × String)) := []
  stepsLeft : Nat

structure Session where
  context : Context
  machine : Machine

/-- Why the commands of a script go no further. -/
inductive Stop
  | exit
  /-- An error that has been reported. -/
  | failed
  | killed (process signal : Nat)
  | returned
  | broken (loops : Nat)
  | continued (loops : Nat)
  /-- Something that is not known here. -/
  | unknown

abbrev Script := ExceptT Stop (StateM Session)

namespace Script

def context : Script Context := return (← get).context

def modifyContext (f : Context → Context) : Script Unit :=
  modify fun s => { s with context := f s.context }

def modifyMachine (f : Machine → Machine) : Script Unit :=
  modify fun s => { s with machine := f s.machine }

def unknown {α : Type} : Script α := throw .unknown

def setStatus (n : Nat) : Script Unit := modifyContext ({ · with status := n })

/-- Changes the value under a key, or adds one. -/
def put {β : Type} (key : String) (value : β) : List (String × β) → List (String × β)
  | [] => [(key, value)]
  | (k, v) :: rest => if k = key then (key, value) :: rest else (k, v) :: put key value rest

/-- Changes the value under a number, or adds one. -/
def putAt {β : Type} (key : Nat) (value : β) : List (Nat × β) → List (Nat × β)
  | [] => [(key, value)]
  | (k, v) :: rest => if k = key then (key, value) :: rest else (k, v) :: putAt key value rest

/-- A new channel. -/
def newChannel : Script Nat := do
  let m := (← get).machine
  let n := m.nextChannel
  modifyMachine fun m => { m with channels := (n, {}) :: m.channels, nextChannel := n + 1 }
  return n

def newProcess : Script Nat := do
  let n := (← get).machine.nextProcess
  modifyMachine fun m => { m with nextProcess := n + 1 }
  return n

def channel (n : Nat) : Script Channel :=
  return ((← get).machine.channels.lookup n).getD {}

def setChannel (n : Nat) (c : Channel) : Script Unit :=
  modifyMachine fun m => { m with channels := putAt n c m.channels }

/-- Takes everything out of a channel, which is not used any more. -/
def drain (n : Nat) : Script (List Char) := do
  let text := (← channel n).contents
  modifyMachine fun m => { m with channels := m.channels.filter (·.1 ≠ n) }
  return text

/-- Writes to a descriptor; says whether it could. -/
def write (descriptor : Nat) (text : List Char) : Script Bool := do
  match (← context).descriptors.lookup descriptor with
  | some (.channel n) =>
    setChannel n ((← channel n).push text)
    return true
  | some .nowhere => return true
  | _ => return text.isEmpty

/-- Complains on the second output, under the name of the script and the line. -/
def complain (message : String) : Script Unit := do
  let c ← context
  let start := c.name ++ ": " ++ toString c.line ++ ": " ++
    (match c.builtin with
      | some name => name ++ ": "
      | none => "")
  discard (write 2 (start ++ message ++ "\n").toList)

/-- Complains and gives up. -/
def fail {α : Type} (message : String) : Script α := do
  complain message
  setStatus 2
  throw .failed

/-- The value of a variable. -/
def valueOf? (name : String) : Script (Option String) :=
  return ((← context).bindings.lookup name).bind (·.value)

/-- Assigns a variable. -/
def assign (name value : String) : Script Unit := do
  let c ← context
  let old := (c.bindings.lookup name).getD { value := none }
  if old.readOnly then fail (name ++ ": is read only")
  let new := { old with value := some value, exported := old.exported || c.options.allexport }
  modifyContext fun c => { c with bindings := put name new c.bindings }

/-- Changes what is known about a variable besides its value. -/
def declare (name : String) (f : Variable → Variable) : Script Unit :=
  modifyContext fun c =>
    { c with bindings := put name (f ((c.bindings.lookup name).getD { value := none })) c.bindings }

/-- Runs something in a context that is put back afterwards, however it ends. -/
def inContext {α : Type} (change : Context → Context) (restore : Context → Context → Context)
    (p : Script α) : Script α := fun s =>
  let before := s.context
  let (result, s) := p { s with context := change before }
  (result, { s with context := restore before s.context })

/-- Repeats something as long as it says so, at most `limit` times, handing a value on. -/
def iterate {α : Type} (p : α → Script (α × Bool)) : Nat → α → Script α
  | 0, _, s => (.error .unknown, s)
  | limit + 1, a, s =>
    match p a s with
    | (.ok (a, true), s) => iterate p limit a s
    | (.ok (a, false), s) => (.ok a, s)
    | (.error e, s) => (.error e, s)

/-- The characters that words are split at. -/
def separators : Script (List Char) := return ((← valueOf? "IFS").getD " \t\n").toList

end Script

end ImageForge.Shell
