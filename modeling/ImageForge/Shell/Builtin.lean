import ImageForge.Shell.Builtin.Reading
import ImageForge.Shell.Builtin.Signals
import ImageForge.Shell.Builtin.Variables
import ImageForge.Shell.Format
/-!
The builtin commands that do not run others. Each has a status; some end the script, a loop or a
function.
-/

namespace ImageForge.Shell

namespace Script

def exitWith (args : List String) : Script Nat := do
  match args with
  | [] => pure ()
  | text :: _ => setStatus (← number text)
  throw .exit

def returnWith (args : List String) : Script Nat := do
  match args with
  | [] => pure ()
  | text :: _ => setStatus (← number text)
  throw .returned

/-- Leaves or goes on with a number of loops around the command. -/
def leaveLoops (stop : Nat → Stop) (args : List String) : Script Nat := do
  let n ← match args with
    | [] => pure 1
    | text :: _ => do
      let n ← number text
      if n = 0 then fail ("Illegal number: " ++ text)
      pure n
  let n := min n (← context).loops
  if n = 0 then return 0
  setStatus 0
  throw (stop n)

def shiftBy (args : List String) : Script Nat := do
  let n ← match args with
    | [] => pure 1
    | text :: _ => number text
  if (← context).arguments.length < n then fail "can't shift that many"
  modifyContext fun c => { c with arguments := c.arguments.drop n, optionOffset := 0 }
  return 0

/-- Where a program is found, if it is one of those that are covered. -/
def programPath? (name : String) (known : List String) : Script (Option String) := do
  let path := (← valueOf? "PATH").getD ""
  let dirs := path.splitOn ":"
  if name ∈ known then
    return (dirs.find? fun d => d ∈ ["/bin", "/usr/bin"]).map fun d => d ++ "/" ++ name
  return none

/-- Says what a name stands for as a command. -/
def describe (known : List String) (verbose : Bool) (name : String) : Script Nat := do
  let say := fun (long short : String) => print ((if verbose then long else short) ++ "\n").toList
  if name ∈ keywords then say (name ++ " is a shell keyword") name
  else if (← context).functions.any (·.1 = name) then say (name ++ " is a shell function") name
  else if name ∈ specialBuiltins then say (name ++ " is a special shell builtin") name
  else if name ∈ ordinaryBuiltins then say (name ++ " is a shell builtin") name
  else
    match ← programPath? name known with
    | some path => say (name ++ " is " ++ path) path
    | none =>
      if verbose then discard (print (name ++ ": not found\n").toList)
      return 127

def describeAll (known : List String) (names : List String) : Script Nat :=
  names.foldlM (fun status name => do
    let n ← describe known true name
    return if n = 0 then status else n) 0

/-- Goes to a directory; a dash stands for the one before, which is shown then. -/
def changeDirectory (args : List String) : Script Nat := do
  let (_, operands) ← letterOptions ['L', 'P'] (if args.head? = some "-" then "--" :: args else args)
  let given ← match operands with
    | [] => pure ((← valueOf? "HOME").getD "")
    | path :: _ => pure path
  let target ← if given = "-" then pure ((← valueOf? "OLDPWD").getD "") else pure given
  if target.isEmpty then return 0
  let c ← context
  match kindFrom? c.directory target with
  | some .directory =>
    let new := resolvePath c.directory target
    declare "OLDPWD" fun v => { v with value := some (resolvePath c.directory ".") }
    declare "PWD" fun v => { v with value := some new }
    modifyContext ({ · with directory := some new })
    if given = "-" then print (new ++ "\n").toList else return 0
  | _ => fail ("can't cd to " ++ target)

def printDirectory : Script Nat := do
  print (resolvePath (← context).directory "." ++ "\n").toList

def printFormatted (args : List String) : Script Nat := do
  let (_, args) ← letterOptions [] args
  match args with
  | [] => fail "usage: printf format [arg ...]"
  | form :: rest =>
    let p := printFormat form rest
    if p.unknown then unknown
    for message in p.complaints do
      complain message
    match p.failure with
    | some message =>
      complain message
      discard (print p.out)
      return 2
    | none =>
      let status ← print p.out
      return if status = 0 && !p.complaints.isEmpty then 1 else status

def decideCondition (name : String) (args : List String) : Script Nat := do
  let words ←
    if name = "[" then
      if ((args.getLast?.map (·.startsWith "]")).getD false) then pure args.dropLast
      else fail "missing ]"
    else pure args
  match (worldFrom (← context).directory).decide words with
  | .ok value => return if value then 0 else 1
  | .error message => fail message

/-- Runs a builtin that runs no other command; `none` for one that does. -/
def simpleBuiltin (known : List String) (name : String) (args : List String) : Option (Script Nat) :=
  match name with
  | ":" | "true" => some (return 0)
  | "false" => some (return 1)
  | "echo" => some (print (echoText args))
  | "printf" => some (printFormatted args)
  | "test" | "[" => some (decideCondition name args)
  | "exit" => some (exitWith args)
  | "return" => some (returnWith args)
  | "break" => some (leaveLoops .broken args)
  | "continue" => some (leaveLoops .continued args)
  | "shift" => some (shiftBy args)
  | "set" => some (setAll args)
  | "unset" => some (unsetNames args)
  | "export" => some (markVariables name args fun v => { v with exported := true })
  | "readonly" => some (markVariables name args fun v => { v with readOnly := true })
  | "local" => some (makeLocal args)
  | "read" => some (readVariables args)
  | "getopts" => some (nextOption args)
  | "kill" => some (kill args)
  | "trap" => some (trap args)
  | "type" => some (describeAll known args)
  | "cd" | "chdir" => some (changeDirectory args)
  | "pwd" => some printDirectory
  | "umask" =>
    some (match args with
      | [] => print "0022\n".toList
      | ["-S"] => print "u=rwx,g=rx,o=rx\n".toList
      | [_] => return 0
      | _ => unknown)
  | "hash" =>
    some (match args with
      | [] | ["-r"] => return 0
      | _ => unknown)
  | "alias" | "jobs" => some (if args.isEmpty then return 0 else unknown)
  | "fg" => some (fail "No current job")
  | "times" | "ulimit" | "unalias" | "bg" => some unknown
  | _ => none

end Script

end ImageForge.Shell
