import ImageForge.Shell.Syntax
/-!
The tokens of shell scripts, and the state of reading one. A script is read from the front; the token
read last can be held back, and texts given in the script are read at the end of the line that asks
for them.
-/

namespace ImageForge.Shell

/-- What a redirection sign asks for. -/
inductive RedirectKind
  | file (opening : Opening)
  | copy
  /-- Text from the script, whose lines may be indented by tabs. -/
  | document (indented : Bool)
  deriving DecidableEq, Repr

inductive Token
  | word (w : Word) (quoted : Bool)
  | keyword (name : String)
  /-- A sign between commands. -/
  | sign (text : String)
  | newline
  | finish
  | redirect (descriptor : Nat) (kind : RedirectKind)

/-- The words with a meaning of their own where a command may begin. -/
def keywords : List String :=
  ["!", "case", "do", "done", "elif", "else", "esac", "fi", "for", "if", "in", "then", "until",
    "while", "\x7b", "\x7d"]

/-- A token as complaints name it. -/
def Token.name : Token → String
  | .word _ _ => "word"
  | .keyword k => "\"" ++ k ++ "\""
  | .sign s => "\"" ++ s ++ "\""
  | .newline => "newline"
  | .finish => "end of file"
  | .redirect _ _ => "redirection"

/-- An unquoted word that is a keyword, as one. -/
def Token.asKeyword (t : Token) : Token :=
  match t with
  | .word [.plain cs] false =>
    if String.ofList cs ∈ keywords then .keyword (String.ofList cs) else t
  | t => t

def Token.is (t : Token) (text : String) : Bool :=
  match t with
  | .keyword k => k == text
  | .sign s => s == text
  | _ => false

/-- Whether a token closes a list of commands. -/
def Token.closes : Token → Bool
  | .keyword k => k ∈ ["do", "done", "elif", "else", "esac", "fi", "then", "\x7d"]
  | .sign s => s ∈ [")", ";;"]
  | .finish => true
  | _ => false

/-- A text that the script still has to give: its number, the line that ends it, and whether it is
taken as it stands. -/
structure Awaited where
  number : Nat
  delimiter : List Char
  indented : Bool
  literal : Bool

/-- Where the reading of a script stands. -/
structure Reading where
  rest : List Char
  line : Nat := 1
  last : Token := .newline
  held : Bool := false
  awaited : List Awaited := []
  documents : List (Nat × Word) := []
  /-- How many texts have been asked for so far. -/
  count : Nat := 0

structure SyntaxError where
  line : Nat
  message : String
  deriving DecidableEq, Repr

abbrev Reader := StateT Reading (Except SyntaxError)

/-- Fails at the line that is being read. -/
def refuse {α : Type} (message : String) : Reader α := do
  throw ⟨(← get).line, message⟩

/-- Complains about the token read last, and says what should stand in its place. -/
def unexpected {α : Type} (expected : Option Token) : Reader α := do
  let name := (← get).last.name ++ " unexpected"
  refuse (match expected with
    | some t => name ++ " (expecting " ++ t.name ++ ")"
    | none => name)

/-- The next character, if any, which stays. -/
def peek : Reader (Option Char) := return (← get).rest.head?

/-- Takes the next character. -/
def take : Reader (Option Char) := do
  let r ← get
  match r.rest with
  | [] => return none
  | c :: cs =>
    set { r with rest := cs, line := if c = '\n' then r.line + 1 else r.line }
    return some c

/-- Skips a backslash at the end of a line, with what follows it, as often as there is one. -/
def joinLines : Reader Unit :=
  modify fun r =>
    let (rest, line) := go r.rest r.line
    { r with rest, line }
where
  go : List Char → Nat → List Char × Nat
    | '\\' :: '\n' :: cs, line => go cs (line + 1)
    | cs, line => (cs, line)

/-- The next character, which stays, on a joined line. -/
def peekJoined : Reader (Option Char) := do
  joinLines
  peek

/-- Takes the next character if it is a given one. -/
def accept (c : Char) : Reader Bool := do
  if (← peekJoined) = some c then
    discard take
    return true
  return false

/-- Reads characters of a class on joined lines, at most `limit` of them. -/
def takeWhile (p : Char → Bool) : Nat → Reader (List Char)
  | 0 => return []
  | limit + 1 => do
    match ← peekJoined with
    | some c =>
      if p c then
        discard take
        return c :: (← takeWhile p limit)
      return []
    | none => return []

/-- Reads up to a character, which is taken as well; `none` when it does not come. -/
def takeUntil (stop : Char) : Reader (Option (List Char)) := do
  let r ← get
  let text := r.rest.takeWhile (· ≠ stop)
  let line := r.line + text.count '\n'
  match r.rest.drop text.length with
  | [] =>
    set { r with rest := [], line }
    return none
  | _ :: rest =>
    set { r with rest, line }
    return some text

/-- Repeats a reader as long as it gives something, at most `limit` times. -/
def many {α : Type} (p : Reader (Option α)) : Nat → Reader (List α)
  | 0 => return []
  | limit + 1 => do
    match ← p with
    | some a => return a :: (← many p limit)
    | none => return []

/-- How many steps there can be in what is left to read. -/
def stepsLeft : Reader Nat := return (← get).rest.length + 1

end ImageForge.Shell
