import ImageForge.Shell.Expansion
/-!
What builtin commands have in common: which there are, how they print, and how they read numbers and
options.
-/

namespace ImageForge.Shell

/-- The builtin commands whose failure does not end a script. -/
def ordinaryBuiltins : List String :=
  ["[", "alias", "bg", "cd", "chdir", "command", "echo", "false", "fg", "getopts", "hash", "jobs", "kill",
    "printf", "pwd", "read", "test", "true", "type", "ulimit", "umask", "unalias", "wait"]

namespace Script

/-- Writes on the first output; what cannot be written is an error. -/
def print (text : List Char) : Script Nat := do
  if ← write 1 text then return 0
  match (← context).builtin with
  | some name => complain (name ++ ": I/O error")
  | none => complain "I/O error"
  return 1

/-- A number that is not negative. -/
def number (text : String) : Script Nat := do
  match conditionInteger text with
  | .ok n => if 0 ≤ n && n ≤ 2147483647 then return n.natAbs else fail ("Illegal number: " ++ text)
  | .error _ => fail ("Illegal number: " ++ text)

/-- A text in single quotes, as a script would write it. -/
def quoteText (s : String) : String :=
  "'" ++ String.intercalate "'\"'\"'" (s.splitOn "'") ++ "'"

/-- Goes through the letters of the options before the operands, and gives the operands. -/
def letterOptions (allowed : List Char) (args : List String) : Script (List Char × List String) := do
  match args with
  | [] => return ([], [])
  | a :: rest =>
    if a = "--" then return ([], rest)
    match a.toList with
    | '-' :: c :: cs =>
      match (c :: cs).find? (· ∉ allowed) with
      | some bad => fail ("Illegal option -" ++ String.singleton bad)
      | none =>
        let (letters, operands) ← letterOptions allowed rest
        return (c :: cs ++ letters, operands)
    | _ => return ([], args)

end Script

end ImageForge.Shell
