import ImageForge.Shell.Builtin.Basic
import ImageForge.Shell.SignalName
/-!
The builtin commands for signals: sending them, and what is to be done on them.
-/

namespace ImageForge.Shell.Script

def usageOfKill : String :=
  "Usage: kill [-s sigspec | -signum | -sigspec] [pid | job]... or\nkill -l [exitstatus]"

/-- Sends a signal to processes. -/
def sendTo (signal : Nat) (targets : List String) : Script Nat := do
  if targets.isEmpty then fail usageOfKill
  let mut status := 0
  for text in targets do
    if text.startsWith "%" then fail ("No such job: " ++ text)
    match text.toList with
    | '-' :: group => do
      discard (number (String.ofList group))
      unknown
    | _ => pure ()
    let target ← number text
    if !(← send target signal) then
      complain "No such process\n"
      status := 1
  return status

/-- Names signals by their numbers, or by the statuses of processes they have ended. -/
def listSignals (args : List String) : Script Nat := do
  match args with
  | [] =>
    let names := "0" :: (List.range lastRealTime).map fun i => signalText (i + 1)
    print (names.flatMap fun n => (n ++ "\n").toList)
  | text :: _ =>
    let n ← number text
    let signal := if n > 128 then n - 128 else n
    if signal = 0 || lastRealTime < signal then
      fail ("invalid signal number or exit status: " ++ text)
    print (signalText signal ++ "\n").toList

def kill (args : List String) : Script Nat := do
  match args with
  | [] => fail usageOfKill
  | a :: rest =>
    match a.toList with
    | '-' :: c :: cs =>
      match if cs.isEmpty && !c.isDigit then none else signalOf? 1 (String.ofList (c :: cs)) with
      | some signal => sendTo signal rest
      | none =>
        match c, cs with
        | 'l', [] => listSignals rest
        | '0', [] => sendTo 0 rest
        | 's', [] =>
          match rest with
          | [] => fail "No arg for -s option"
          | name :: targets => named name targets
        | 's', cs => named (String.ofList cs) rest
        | '-', [] => sendTo 15 rest
        | 'l', _ => unknown
        | c, _ => fail ("Illegal option -" ++ String.singleton c)
    | _ => sendTo 15 args
where
  named (name : String) (targets : List String) : Script Nat := do
    match if name = "0" then some 0 else signalOf? 1 name with
    | some signal => sendTo signal (if targets.head? = some "--" then targets.tail else targets)
    | none => fail ("invalid signal number or name: " ++ name)

/-- Sets what is to be done on signals, or says what is. -/
def trap (args : List String) : Script Nat := do
  let (_, operands) ← letterOptions [] args
  match operands with
  | [] =>
    let traps := (← context).traps.mergeSort fun a b => a.1 ≤ b.1
    print (traps.flatMap fun (n, action) =>
      ("trap -- " ++ quoteText action ++ " " ++ signalText n ++ "\n").toList)
  | first :: more =>
    let (action, names) :=
      if more.isEmpty || (signalOf? 0 first).isSome then (none, first :: more)
      else (if first = "-" then none else some first, more)
    go action names
where
  go (action : Option String) : List String → Script Nat
    | [] => return 0
    | name :: names => do
      match signalOf? 0 name with
      | none =>
        discard (write 2 ("trap: " ++ name ++ ": bad trap\n").toList)
        return 1
      | some n =>
        modifyContext fun c => { c with traps :=
          match action with
          | some text => putAt n text c.traps
          | none => c.traps.filter (·.1 ≠ n) }
        go action names

end ImageForge.Shell.Script
