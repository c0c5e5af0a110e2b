import ImageForge.Shell.Program
/-!
Running commands: simple ones with their redirections and assignments, and those made of others. A
failed command ends a script that says so, unless its status is tested.
-/

namespace ImageForge.Shell

/-- How many times a loop may go round. -/
def loopLimit : Nat := 100000

namespace Script

/-- How deep functions may call each other. -/
def deepestCall : Nat := 1000

/-- Runs the body of a function with its arguments. -/
def callFunction (run : Command → Script Unit) (body : Command) (args : List String) : Script Unit := do
  if deepestCall ≤ (← context).saved.length then
    fail ("Maximum function recursion depth (" ++ toString deepestCall ++ ") reached")
  fun s =>
    let before := s.context
    let start := { before with arguments := args, loops := 0, saved := [] :: before.saved }
    let (result, s) := run body { s with context := start }
    let after := s.context
    let restored := (after.saved.headD []).foldl (fun vs (name, old) =>
      match old with
      | some v => put name v vs
      | none => vs.filter (·.1 ≠ name)) after.bindings
    let context := { after with
      arguments := before.arguments, loops := before.loops, saved := before.saved,
      bindings := restored }
    (match result with
      | .error .returned => .ok ()
      | result => result, { s with context })

/-- Waits for jobs: all of them, or those with some numbers. -/
def wait (run : Command → Script Unit) (args : List String) : Script Nat := do
  let c ← context
  match args with
  | [] =>
    runJobs run (endProcess run) (· == c.process) 100
    return 0
  | _ =>
    let mut status := 0
    for text in args do
      if text.startsWith "%" then unknown
      let n ← number text
      match (← get).machine.jobs.find? fun j => j.process = n && j.parent = c.process with
      | none => status := 127
      | some j =>
        match ← runJob run (endProcess run) j with
        | some signal => reportSignal signal
        | none => pure ()
        match (← get).machine.jobs.find? (·.process = n) with
        | some ⟨_, _, .done s _⟩ => status := s
        | _ => pure ()
    return status

/-- Shows a command before it runs. -/
def trace (assignments : List (String × String)) (args : List String) : Script Unit := do
  let start := (← valueOf? "PS4").getD ""
  let words := assignments.map (fun (name, value) => name ++ "=" ++ value) ++ args
  discard (write 2 (start ++ String.intercalate " " words ++ "\n").toList)

/-- Runs a builtin under its name; a failure ends the script if the builtin is special. -/
def runBuiltin (special : Bool) (name : String) (p : Script Nat) : Script Unit := fun s =>
  let before := s.context.builtin
  let (result, s) := p { s with context := { s.context with builtin := some name } }
  let context := { s.context with builtin := before }
  match result with
  | .ok status => (.ok (), { s with context := { context with status } })
  | .error .failed =>
    if special then (.error .failed, { s with context }) else (.ok (), { s with context })
  | .error e => (.error e, { s with context })

/-- Runs commands from a file. -/
def runFile (run : Command → Script Unit) (path : String) : Script Nat := do
  if '/' ∉ path.toList then fail (path ++ ": not found")
  match ← openFile .read path with
  | .error message => fail message
  | .ok .nowhere => return 0
  | .ok (.channel n) =>
    let text := (← channel n).contents
    setChannel n {}
    runSource run text
    return (← context).status
  | .ok _ => unknown

/-- A builtin that runs other commands. -/
def runningBuiltin (run : Command → Script Unit) (name : String) (args : List String) : Script Nat := do
  match name, args with
  | "eval", args =>
    runSource run (String.intercalate " " args).toList
    return (← context).status
  | "wait", args => wait run args
  | ".", path :: _ => runFile run path
  | ".", [] => return 0
  | _, _ => unknown

/-- Puts the program in the place of the shell, or only keeps the redirections. -/
def exec (run : Command → Script Unit) (args : List String) : Script Nat := do
  match args with
  | [] => return 0
  | name :: args =>
    match ← findProgram name with
    | .error (message, status) =>
      complain message
      setStatus status
    | .ok found =>
      let name := if '/' ∈ name.toList then name else found
      setStatus (← runProgram run true (args.length + 1) name args)
      modifyContext fun c => { c with traps := c.traps.filter (·.1 ≠ 0) }
    throw .exit

/-- Runs a command by its words; `direct` says that functions are looked for as well. -/
def runWords (run : Command → Script Unit) (direct special : Bool) :
    Nat → List String → Script Unit
  | 0, _ => unknown
  | _, [] => return
  | depth + 1, name :: args => do
    let c ← context
    let function := if direct then c.functions.lookup name else none
    if name ∈ specialBuiltins || (function.isNone && name ∈ ordinaryBuiltins) then
      let special := special && name ∈ specialBuiltins
      match name, args with
      | "exec", args => runBuiltin special name (exec run args)
      | "command", args => command depth args
      | name, args =>
        runBuiltin special name
          ((simpleBuiltin knownPrograms name args).getD (runningBuiltin run name args))
    else match function with
      | some body => callFunction run body args
      | none => setStatus (← runExternal run name args)
where
  command (depth : Nat) (args : List String) : Script Unit := do
    match args with
    | [] => setStatus 0
    | a :: rest =>
      match a.toList with
      | ['-', '-'] => runWords run false false depth rest
      | '-' :: c :: cs =>
        match (c :: cs).find? (· ∉ ['p', 'v', 'V']) with
        | some bad =>
          runBuiltin false "command" (fail ("Illegal option -" ++ String.singleton bad))
        | none =>
          if c :: cs = ['p'] then runWords run false false depth rest
          else
            let verbose := (c :: cs).contains 'V'
            runBuiltin false "command" (rest.head?.elim (return 0) (describe knownPrograms verbose))
      | _ => runWords run false false depth (a :: rest)

/-- Puts variables back after something, however it ends. -/
def keepVariables (names : List String) (p : Script Unit) : Script Unit :=
  inContext id (fun before after =>
    { after with bindings := names.foldl (fun vs name =>
        match before.bindings.lookup name with
        | some v => put name v vs
        | none => vs.filter (·.1 ≠ name)) after.bindings }) p

/-- Expands and makes assignments, one after the other. -/
def assignAll (e : Engine) : List (String × Word) → Script (List (String × String))
  | [] => return []
  | (name, w) :: rest => do
    let value ← expandText e w
    assign name value
    return (name, value) :: (← assignAll e rest)

/-- The fields of the words of a command. What looks like an assignment is not split for a builtin that
makes assignments. -/
def commandFields (e : Engine) (ws : List Word) : Script (List String) := do
  match ws with
  | [] => return []
  | first :: rest =>
    let start ← expandFields e [first]
    match start with
    | [name] =>
      if name ∈ ["export", "readonly", "local"] then
        let others ← rest.mapM fun w => do
          match assignment? w with
          | some (name, value) => return [name ++ "=" ++ (← expandText e value)]
          | none => expandFields e [w]
        return start ++ others.flatten
      return start ++ (← expandFields e rest)
    | _ => return start ++ (← expandFields e rest)

/-- Runs a simple command. -/
def runSimple (e : Engine) (run : Command → Script Unit) (assignments : List (String × Word))
    (words : List Word) (redirects : List Redirect) : Script Unit := do
  modifyContext ({ · with substitutionStatus := 0 })
  let args ← commandFields e words
  let opened ← redirects.mapM (expandRedirect e)
  let traces := (← context).options.xtrace
  let shown := fun (p : Script (List (String × String))) => do
    let made ← p
    if traces && !(args.isEmpty && made.isEmpty) then trace made args
  let special := (args.head?.map (specialBuiltins.contains ·)).getD false
  let body : Script Unit := do
    if !(← redirectAll opened) then
      setStatus 2
      if special then throw .failed
      return
    match args with
    | [] => do
      shown (assignAll e assignments)
      setStatus (← context).substitutionStatus
    | _ =>
      let perform := runWords run true true (args.length + 1) args
      if special then
        shown (assignAll e assignments)
        perform
      else
        let names := assignments.map (·.1)
        keepVariables names do
          shown (assignAll e assignments)
          for name in names do
            declare name fun v => { v with exported := true }
          perform
  if args = ["exec"] then body else keepDescriptors body

/-- Runs a command in a child whose descriptors are given, and leaves its status. -/
def runChild (run : Command → Script Unit) (start : Context → Context) (body : Script Unit) :
    Script Unit := do
  setStatus (← inChild start body (endProcess run))

/-- Runs commands each of which reads what the one before it writes. -/
def runPipeline (e : Engine) (run : Command → Script Unit) : Option Nat → List Command → Script Unit
  | _, [] => return
  | input, c :: rest => do
    let reading := fun (start : Context) =>
      match input with
      | some n => { start with descriptors := putAt 0 (.channel n) start.descriptors }
      | none => start
    match rest with
    | [] => runChild run reading (e.run false c)
    | _ =>
      let n ← newChannel
      runChild run (fun start =>
        let start := reading start
        { start with descriptors := putAt 1 (.channel n) start.descriptors }) (e.run false c)
      match input with
      | some n => discard (drain n)
      | none => pure ()
      runPipeline e run (some n) rest

/-- One round of a loop's body: whether the loop goes on. -/
def roundOf (body : Script Unit) : Script Bool := fun s =>
  match body s with
  | (.ok (), s) => (.ok true, s)
  | (.error (.broken n), s) => if n ≤ 1 then (.ok false, s) else (.error (.broken (n - 1)), s)
  | (.error (.continued n), s) => if n ≤ 1 then (.ok true, s) else (.error (.continued (n - 1)), s)
  | (.error e, s) => (.error e, s)

/-- Runs something as the body of a loop. -/
def inLoop {α : Type} (p : Script α) : Script α :=
  inContext (fun c => { c with loops := c.loops + 1 }) (fun before after =>
    { after with loops := before.loops }) p

/-- Repeats a body as long as a test comes out as expected; the status is that of the last body. -/
def runLoop (e : Engine) (tested expected : Bool) (test body : Command) : Script Unit := do
  let round := fun (status : Nat) => do
    if !(← roundOf (e.run true test)) then return (0, false)
    if ((← context).status = 0) != expected then return (status, false)
    let goes ← roundOf (e.run tested body)
    return ((← context).status, goes)
  let status ← inLoop (iterate round loopLimit 0)
  setStatus status

/-- Runs a body for each of some values of a variable. -/
def runEach (e : Engine) (tested : Bool) (name : String) (body : Command) : List String → Script Unit
  | [] => return
  | value :: rest => do
    assign name value
    if ← roundOf (e.run tested body) then runEach e tested name body rest

/-- The body of the first arm with a pattern that matches. -/
def chooseArm (e : Engine) (subject : List Char) :
    List (List Word × Command) → Script (Option Command)
  | [] => return none
  | (patterns, body) :: rest => do
    if ← anyMatches patterns then return some body
    chooseArm e subject rest
where
  anyMatches : List Word → Script Bool
    | [] => return false
    | w :: ws => do
      if patternMatches (← expandPattern e w) subject then return true
      anyMatches ws

/-- Ends a script that ends on failures, if the last command has failed. -/
def checkFailure (tested : Bool) : Script Unit := do
  let c ← context
  if c.options.errexit && !tested && c.status ≠ 0 then throw .exit

/-- Runs the redirections of a command and then the command. -/
def runRedirected (e : Engine) (line : Nat) (redirects : List Redirect) (p : Script Unit) :
    Script Unit := do
  modifyContext ({ · with line })
  let opened ← redirects.mapM (expandRedirect e)
  keepDescriptors do
    if ← redirectAll opened then p else setStatus 2

/-- Runs one command, given how to run those in it. -/
def runCommand (e : Engine) (tested : Bool) (c : Command) : Script Unit := do
  if (← context).options.noexec then return
  let run := e.run tested
  let free := e.run false
  match c with
  | .simple line assignments words redirects => do
    let m := (← get).machine
    if m.stepsLeft = 0 then unknown
    modifyMachine fun m => { m with stepsLeft := m.stepsLeft - 1 }
    modifyContext ({ · with line })
    runSimple e run assignments words redirects
    runTraps free
    checkFailure tested
  | .pipeline cs => do
    runPipeline e free none cs
    runTraps free
    checkFailure tested
  | .negated c => do
    e.run true c
    setStatus (if (← context).status = 0 then 1 else 0)
  | .both a b => do
    e.run true a
    if (← context).status = 0 then run b
  | .either a b => do
    e.run true a
    if (← context).status ≠ 0 then run b
  | .sequence [] => setStatus 0
  | .sequence cs =>
    for c in cs do
      run c
  | .background c => do
    let process ← newProcess
    let parent ← context
    let start := { Context.forChild parent with
      descriptors := putAt 0 .nowhere parent.descriptors, process }
    modifyMachine fun m => { m with jobs := m.jobs ++ [⟨process, parent.process, .waiting c start⟩] }
    modifyContext ({ · with lastJob := some process, status := 0 })
  | .subshell line body redirects => do
    modifyContext ({ · with line })
    runChild free id do
      let opened ← redirects.mapM (expandRedirect e)
      if ← redirectAll opened then run body else setStatus 2
    runTraps free
    checkFailure tested
  | .redirected line body redirects => runRedirected e line redirects (run body)
  | .conditional test body otherwise => do
    e.run true test
    if (← context).status = 0 then run body else run otherwise
  | .loop expected test body => runLoop e tested expected test body
  | .each line name words body => do
    modifyContext ({ · with line })
    let values ← expandFields e words
    if values.isEmpty then setStatus 0
    inLoop (runEach e tested name body values)
  | .choice line subject arms => do
    modifyContext ({ · with line })
    let text ← expandText e subject
    match ← chooseArm e text.toList arms with
    | some body => run body
    | none => setStatus 0
  | .function _ name body => do
    modifyContext fun c => { c with functions := put name body c.functions, status := 0 }

end Script

/-- Nesting too deep ends the process by the signal for access beyond its memory. -/
def Script.overflow {α : Type} : Script α := do
  throw (.killed (← Script.context).process 11)

/-- The engine for a depth of nesting. -/
def engine : Nat → Engine
  | 0 => ⟨fun _ _ => Script.overflow, fun _ _ => Script.overflow⟩
  | depth + 1 =>
    ⟨fun tested c s => Script.runCommand (engine depth) tested c s,
      fun inner w s =>
        Script.expandParts (engine depth) (Script.endWatched ((engine depth).run false)) inner w s⟩

/-- How deep commands may nest. -/
def nestingLimit : Nat := 16000

/-- How many simple commands a script may run. -/
def stepLimit : Nat := 200000

/-- How a script has ended, and what it has printed. -/
structure Ended where
  status : Nat
  signal : Option Nat
  stdout : List Char
  stderr : List Char
  deriving DecidableEq, Repr

/-- The number of the first process. -/
def firstProcess : Nat := 4242

/-- The variables that every process gets. -/
def defaultEnvironment : List (String × Variable) :=
  [("HOME", "/root"), ("PATH", "/usr/local/sbin:/usr/local/bin:/usr/sbin:/usr/bin:/sbin:/bin")].map
    fun (name, value) => (name, { value := some value, exported := true })

/-- Runs a program to its end, with nothing to read; `name` is what it has been called by. There is no
result for what is not known here. -/
def runAlone (program name : String) (args : List String) : Option Ended :=
  let run := (engine nestingLimit).run false
  let context : Context :=
    { name, bindings := Script.initialVariables defaultEnvironment,
      descriptors := [(0, .nowhere), (1, .channel 0), (2, .channel 1)],
      process := firstProcess, shell := firstProcess }
  let machine : Machine :=
    { channels := [(0, {}), (1, {})], nextChannel := 2, nextProcess := firstProcess + 1,
      stepsLeft := stepLimit }
  let body : Script Unit :=
    if program ∈ shellNames then Script.runShell run (Script.invocation name args {} false false)
    else do Script.setStatus (← Script.runProgram run true (args.length + 1) program args)
  let whole : Script (Nat × Option Nat) := do
    let result ← Script.runProcess firstProcess context body (Script.endProcess run)
    Script.runJobs run (Script.endProcess run) (fun _ => true) 100
    return result
  match whole { context, machine } with
  | (.ok (status, signal), s) =>
    let text := fun n => ((s.machine.channels.lookup n).getD {}).contents
    some ⟨status, signal, text 0, text 1⟩
  | (.error _, _) => none

end ImageForge.Shell
