import ImageForge.Shell.Process
/-!
Running a script as text: one complete command after the other, so that what comes before a syntax error
runs, and the actions that have been set for signals and for the end of a process.
-/

namespace ImageForge.Shell.Script

/-- Runs a script, one complete command after the other. -/
def runSource (run : Command → Script Unit) (text : List Char) : Script Unit := do
  let m := (← get).machine
  let rec go : Nat → Reading → Bool → Script Unit
    | 0, _, _ => return
    | limit + 1, r, ran => do
      let r := { r with last := .newline, held := false }
      match readComplete.run r with
      | .error fault =>
        modifyContext ({ · with line := fault.line })
        fail ("Syntax error: " ++ fault.message)
      | .ok (none, _) => if !ran then setStatus 0
      | .ok (some (c, ends), r) =>
        modifyMachine fun m => { m with documents := r.documents, documentCount := r.count }
        match c with
        | some c => run c
        | none => pure ()
        let m := (← get).machine
        let r := { r with documents := m.documents, count := m.documentCount }
        if !ends then go limit r (ran || c.isSome)
  go (text.length + 1) { rest := text, documents := m.documents, count := m.documentCount } false

/-- Acts on the signals that have come. -/
def runTraps (run : Command → Script Unit) : Script Unit := do
  for signal in ← takeSignals do
    let c ← context
    match c.traps.lookup signal with
    | some action =>
      runSource run action.toList
      setStatus c.status
    | none => pure ()

/-- What a process does at its end: the action that has been set for it, after which it ends with the
same status unless the action says otherwise. -/
def endProcess (run : Command → Script Unit) : Script Unit := do
  let c ← context
  match c.traps.lookup 0 with
  | some action =>
    modifyContext fun c => { c with traps := c.traps.filter (·.1 ≠ 0), builtin := none }
    let before := (← context).status
    let finish : Script Unit := fun s =>
      match runSource run action.toList s with
      | (.ok (), s) => (.ok (), { s with context := { s.context with status := before } })
      | result => result
    finish
  | none => pure ()

/-- What a process does at its end when its output is waited for. -/
def endWatched (run : Command → Script Unit) : Script Unit := do
  endProcess run
  let process := (← context).process
  runJobs run (endProcess run) (· == process) 100

end ImageForge.Shell.Script
