/-!
Shell scripts as trees: words out of parts that are still to be expanded, redirections, and commands.
A text is a sequence of bytes, each held as the character of its number.
-/

namespace ImageForge.Shell

/-- The character that stands for a byte of a text. -/
def byteChar (b : UInt8) : Char := Char.ofNat b.toNat

/-- A text as the bytes of its UTF-8 form. -/
def bytesOf (s : String) : List Char := s.toUTF8.toList.map byteChar

/-- The bytes that characters stand for. -/
def toBytes (cs : List Char) : List UInt8 := cs.map fun c => UInt8.ofNat c.toNat

/-- What stands in for a parameter that is unset, or for one that is set. -/
inductive Alternative
  | default
  | assign
  | complain
  | replace
  deriving DecidableEq, Repr

/-- How a parameter is used. -/
inductive Use
  | value
  | length
  /-- With `orNull` an empty value counts as none. -/
  | alternative (kind : Alternative) (orNull : Bool)
  /-- What a pattern matches is cut off, at the end or the start, as much or as little as possible. -/
  | trim (atEnd longest : Bool)
  /-- Nothing that a parameter can be used for. -/
  | invalid
  deriving DecidableEq, Repr

/-- What a file is opened for. -/
inductive Opening
  | read
  | write
  | append
  | update
  deriving DecidableEq, Repr

mutual

/-- A part of a word. One marked as quoted is not split into fields. -/
inductive Part
  | plain (text : List Char)
  | quoted (text : List Char)
  | double (parts : List Part)
  | parameter (name : String) (use : Use) (word : List Part) (quoted : Bool)
  | output (body : Command) (quoted : Bool)
  | arithmetic (expression : List Part) (quoted : Bool)

inductive Redirect
  | file (descriptor : Nat) (opening : Opening) (target : List Part)
  /-- The descriptor that another one becomes a copy of. -/
  | copy (descriptor : Nat) (target : List Part)
  /-- Text given in the script itself, by its number. -/
  | document (descriptor : Nat) (number : Nat)

/-- A command; `line` is where it begins. -/
inductive Command
  | simple (line : Nat) (assignments : List (String × List Part)) (words : List (List Part))
      (redirects : List Redirect)
  | pipeline (commands : List Command)
  | negated (command : Command)
  | both (first second : Command)
  | either (first second : Command)
  | sequence (commands : List Command)
  | background (command : Command)
  | subshell (line : Nat) (body : Command) (redirects : List Redirect)
  | redirected (line : Nat) (body : Command) (redirects : List Redirect)
  | conditional (test body otherwise : Command)
  /-- Repeats as long as the test comes out as `expected`. -/
  | loop (expected : Bool) (test body : Command)
  | each (line : Nat) (name : String) (words : List (List Part)) (body : Command)
  | choice (line : Nat) (subject : List Part) (arms : List (List (List Part) × Command))
  | function (line : Nat) (name : String) (body : Command)

end

abbrev Word := List Part

instance : Inhabited Command := ⟨.sequence []⟩

/-- The characters of a word that consists of plain text only. -/
def plainText? : Word → Option String
  | [] => some ""
  | [.plain cs] => some (String.ofList cs)
  | _ => none

/-- What a name may begin with. -/
def startsName (c : Char) : Bool := c.isAlpha || c == '_'

/-- What a name may contain. -/
def inName (c : Char) : Bool := c.isAlphanum || c == '_'

def isName (s : String) : Bool :=
  match s.toList with
  | [] => false
  | c :: cs => startsName c && cs.all inName

/-- Parameters that are written as one sign. -/
def isSpecialParameter (c : Char) : Bool :=
  c.isDigit || c ∈ ['@', '*', '#', '?', '-', '$', '!']

/-- The builtin commands whose failure ends a script. -/
def specialBuiltins : List String :=
  ["break", ":", ".", "continue", "eval", "exec", "exit", "export", "local", "readonly", "return", "set",
    "shift", "times", "trap", "unset"]

end ImageForge.Shell
