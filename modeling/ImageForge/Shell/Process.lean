import ImageForge.Shell.Session
/-!
Processes of a script. Each has a context of its own and ends with a status; one that a signal ends has
a status for that signal, and one that waits for it reports the signal.
-/

namespace ImageForge.Shell.Script

/-- The status of a process that a signal has ended. -/
def signalStatus (signal : Nat) : Nat := 128 + signal

/-- Reports that a signal has ended a process, unless the signal is one that users send. -/
def reportSignal (signal : Nat) : Script Unit := do
  if signal ≠ 2 && signal ≠ 13 then
    discard (write 2 (Execution.signalReport signal ++ "\n").toList)

/-- How a process has ended, if it was the one that a signal was for. -/
def ending (process : Nat) : Except Stop Unit × Session → Except Stop (Nat × Option Nat)
  | (.error .unknown, _) => .error .unknown
  | (.error (.killed target signal), _) =>
    if target = process then .ok (signalStatus signal, some signal) else .error (.killed target signal)
  | (_, s) => .ok (s.context.status % 256, none)

/-- Runs a process to its end: what it does, and then what it has to do at its end unless a signal has
ended it. The context is as before afterwards; the result is the status, and the signal if one has ended
the process. -/
def runProcess (process : Nat) (start : Context) (body finish : Script Unit) :
    Script (Nat × Option Nat) := fun s =>
  let before := s.context
  let machine := { s.machine with outer := (before.process, before.traps) :: s.machine.outer }
  let after := body { context := { start with process }, machine }
  let leave := fun (result : Except Stop (Nat × Option Nat)) (s : Session) =>
    (result, ({ context := before, machine := { s.machine with outer := s.machine.outer.drop 1 } } :
      Session))
  match ending process after with
  | .ok (_, none) =>
    let after := finish after.2
    leave (ending process after) after.2
  | result => leave result after.2

/-- What a child has of the context of its parent. -/
def Context.forChild (c : Context) : Context :=
  { c with traps := c.traps.filter fun (_, action) => action.isEmpty }

/-- Runs a child, and reports the signal that ends it. -/
def inChild (start : Context → Context) (body finish : Script Unit) : Script Nat := do
  let process ← newProcess
  let c ← context
  let (status, signal) ← runProcess process (start (Context.forChild c)) body finish
  match signal with
  | some n => reportSignal n
  | none => pure ()
  return status

/-- Runs a job that is waiting for its turn. -/
def runJob (run : Command → Script Unit) (finish : Script Unit) (j : Job) : Script (Option Nat) := do
  match j.state with
  | .done _ signal => return signal
  | .waiting c start =>
    let record := fun (status : Nat) (signal : Option Nat) =>
      modifyMachine fun m => { m with
        jobs := m.jobs.map fun k =>
          if k.process = j.process then { k with state := .done status signal } else k }
    record 0 none
    let (status, signal) ← runProcess j.process start (run c) finish
    record status signal
    return signal

/-- Runs all jobs of a process, and those that these start, within a number of rounds. -/
def runJobs (run : Command → Script Unit) (finish : Script Unit) (ofParent : Nat → Bool) :
    Nat → Script Unit
  | 0 => return
  | rounds + 1 => do
    let waiting := (← get).machine.jobs.filter fun j =>
      ofParent j.parent && (match j.state with
        | .waiting _ _ => true
        | .done _ _ => false)
    if waiting.isEmpty then return
    for j in waiting do
      discard (runJob run finish j)
    runJobs run finish ofParent rounds

/-- What a process does on a signal: by its traps nothing, or something later; otherwise it ends or
goes on. -/
def receive (process : Nat) (traps : List (Nat × String)) (signal : Nat) : Script Unit := do
  if signal = 0 then return
  match if signal = 9 then none else traps.lookup signal with
  | some action =>
    if !action.isEmpty then
      modifyMachine fun m => { m with signals := m.signals ++ [(process, signal)] }
  | none =>
    if signal ∈ Execution.harmlessSignals then return
    if signal ∈ Execution.stoppingSignals then unknown
    throw (.killed process signal)

/-- Sends a signal to a process; says whether there is such a process. -/
def send (target signal : Nat) : Script Bool := do
  let c ← context
  let m := (← get).machine
  if target = c.process then
    receive target c.traps signal
    return true
  match m.outer.lookup target with
  | some traps =>
    receive target traps signal
    return true
  | none =>
    match m.jobs.find? (·.process = target) with
    | some ⟨_, parent, .waiting _ start⟩ =>
      if signal ∈ Execution.stoppingSignals then unknown
      let ends := signal ≠ 0 && signal ∉ Execution.harmlessSignals &&
        (signal = 9 || (start.traps.lookup signal).isNone)
      if ends then
        let job : Job := ⟨target, parent, .done (signalStatus signal) (some signal)⟩
        modifyMachine fun m => { m with
          jobs := m.jobs.map fun j => if j.process = target then job else j }
      return true
    | _ => return false

/-- Takes the signals that the current process has got, in the order of their numbers. -/
def takeSignals : Script (List Nat) := do
  let c ← context
  let m := (← get).machine
  let (mine, others) := m.signals.partition fun (process, _) => process = c.process
  modifyMachine fun m => { m with signals := others }
  return (mine.map (·.2)).mergeSort.eraseDups

end ImageForge.Shell.Script
