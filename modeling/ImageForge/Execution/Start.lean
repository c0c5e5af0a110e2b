import ImageForge.Execution.Outcome
import ImageForge.Shell.Interpreter
/-!
Starting programs: where a name leads, why a program does not start, and how one that starts ends. The
shell and some programs that filter text are known; no other program exists.
-/

namespace ImageForge.Execution

/-- The longest name of a file, and the longest path. -/
def longestName : Nat := 255

def longestPath : Nat := 4095

/-- The greatest number of bytes that a program's name or one of its arguments may have. -/
def longestArgument : Nat := 131071

/-- The greatest number of bytes that they may have together, each with its end mark and its
address. -/
def longestArguments : Nat := 2000000

/-- Whether a program and its arguments are more than the system takes. -/
def areTooLong (texts : List String) : Bool :=
  texts.any (longestArgument < ·.utf8ByteSize) ||
    longestArguments < texts.foldl (fun total text => total + text.utf8ByteSize + 9) 0

/-- Why a path leads to no program. -/
def pathFailure (path : String) : Worker.StartFailure :=
  let parts := (path.splitOn "/").filter (· ≠ "")
  let above := (List.range parts.length).map fun n => "/" ++ String.intercalate "/" (parts.take n)
  let isFile := fun p => match Shell.fileKind? p with
    | some .device | some .regular => true
    | _ => false
  if longestPath < path.utf8ByteSize then .nameTooLong
  else if path.startsWith "/" && above.any isFile then .notDirectory
  else
    let missing := if path.startsWith "/" then above.any (Shell.fileKind? · = none) else parts.length > 1
    if missing then .noSuchFile
    else if parts.any (longestName < ·.utf8ByteSize) then .nameTooLong
    else match Shell.kindFrom? none path with
      | some .directory => .permissionDenied
      | some _ => if path.endsWith "/" then .notDirectory else .permissionDenied
      | none => .noSuchFile

/-- Where a program's name leads: to a program, by its own name. -/
def findProgram (name : String) : Except Worker.StartFailure String :=
  if name.isEmpty then .error .noSuchFile
  else if '/' ∈ name.toList then
    match Shell.Script.programName? (Shell.resolvePath none name) with
    | some program => if name.endsWith "/" then .error .notDirectory else .ok program
    | none => .error (pathFailure name)
  else if name ∈ Shell.knownPrograms then .ok name
  else if name = "." ∨ name = ".." then .error .permissionDenied
  else if longestName < name.utf8ByteSize then .error .nameTooLong
  else .error .noSuchFile

/-- How a program has ended that was run to its end. -/
def Outcome.ofEnded (e : Shell.Ended) : Outcome where
  status := match e.signal with
    | some n => .signalled n
    | none => .exited e.status
  stdout := Shell.toBytes e.stdout
  stderr := Shell.toBytes e.stderr

/-- Starts a program and runs it to its end. One whose doings are not known counts as missing. -/
def start (c : Worker.Command) : Except Worker.StartFailure Outcome := do
  if (c.program :: c.args).any fun s => s.toList.any (·.toNat = 0) then throw .containsNull
  let program ← findProgram c.program
  if areTooLong (c.program :: c.args) then throw .argumentsTooLong
  let bytes := fun s => String.ofList (Shell.bytesOf s)
  match Shell.runAlone program (bytes c.program) (c.args.map bytes) with
  | some e => return Outcome.ofEnded e
  | none => throw .noSuchFile

/-- The runner that starts real programs. -/
def runner : Worker.Runner := fun _ c => answer c (start c)

end ImageForge.Execution
