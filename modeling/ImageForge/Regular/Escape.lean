import ImageForge.Text.Blank
/-!
The smallest parts of regular expressions: characters, classes and edges, most of them written with a
backslash. Expressions stand here where no closing brace can stand, so nothing that a brace opens is
ever complete.
-/

namespace ImageForge.Regular

/-- How an expression is read: whether blanks and remarks count for nothing, and whether it speaks of
characters rather than of bytes. -/
structure Mode where
  spaced : Bool := false
  unicode : Bool := true
  deriving DecidableEq, Repr

/-- What follows blanks and remarks; a remark begins at `#` and ends with its line. -/
def afterSpace (inRemark : Bool) : List Char → List Char
  | [] => []
  | c :: cs =>
    if inRemark then afterSpace (c != '\n') cs
    else if Text.isBlank c then afterSpace false cs
    else if c == '#' then afterSpace true cs
    else c :: cs

/-- What is left where blanks and remarks may stand. -/
def Mode.skip (m : Mode) (cs : List Char) : List Char :=
  if m.spaced then afterSpace false cs else cs

/-- A part that matches one character, or none at an edge. -/
inductive Primitive
  /-- The character itself; `byte` when two hexadecimal digits write it. -/
  | char (c : Char) (byte : Bool)
  /-- Digits, blanks or the characters of words, or all others. -/
  | named (negated : Bool)
  /-- The characters of a general category. -/
  | category
  | anyChar
  | edge (ofWord : Bool)
  deriving DecidableEq, Repr

/-- The value of a hexadecimal digit. -/
def hexDigit? (c : Char) : Option Nat :=
  if c.isDigit then some (c.toNat - '0'.toNat)
  else if 'a' ≤ c ∧ c ≤ 'f' then some (c.toNat - 'a'.toNat + 10)
  else if 'A' ≤ c ∧ c ≤ 'F' then some (c.toNat - 'A'.toNat + 10)
  else none

/-- Some more hexadecimal digits of a number that has begun. -/
def hexNumber? (m : Mode) : Nat → Nat → List Char → Option (Nat × List Char)
  | 0, n, cs => some (n, cs)
  | count + 1, n, cs =>
    match m.skip cs with
    | [] => none
    | d :: cs => (hexDigit? d).bind fun v => hexNumber? m count (16 * n + v) cs

/-- The character that some hexadecimal digits write. -/
def hexChar? (m : Mode) (count : Nat) (cs : List Char) : Option (Primitive × List Char) := do
  let (n, cs) ← hexNumber? m count 0 cs
  if n.isValidChar then some (.char (Char.ofNat n) (count = 2), cs) else none

/-- The initials of the general categories. -/
def categoryInitials : List Char := "clmnpsz".toList

/-- What the characters after a backslash mean, and what follows. -/
def escape? (m : Mode) : List Char → Option (Primitive × List Char)
  | [] => none
  | c :: cs =>
    match c with
    | 'x' => hexChar? m 2 cs
    | 'u' => hexChar? m 4 cs
    | 'U' => hexChar? m 8 cs
    | 'p' | 'P' =>
      match m.skip cs with
      | d :: cs => if d.toLower ∈ categoryInitials then some (.category, cs) else none
      | [] => none
    | 'd' | 's' | 'w' => some (.named false, cs)
    | 'D' | 'S' | 'W' => some (.named true, cs)
    | 'a' | 'f' | 't' | 'n' | 'r' | 'v' =>
      let n := match c with
        | 'a' => 7
        | 't' => 9
        | 'n' => 10
        | 'v' => 11
        | 'f' => 12
        | _ => 13
      some (.char (Char.ofNat n) false, cs)
    | 'A' | 'z' => some (.edge false, cs)
    | 'b' => if cs.head? = some '\x7b' then none else some (.edge true, cs)
    | 'B' | '<' | '>' => some (.edge true, cs)
    | c => if c.toNat < 0x80 && !c.isAlphanum then some (.char c false, cs) else none

/-- Whether a part may stand in an expression of a mode. The edges of words are known for ASCII alone,
and what speaks of bytes must match whole characters. -/
def Primitive.fits (m : Mode) : Primitive → Bool
  | .char c byte => m.unicode || !byte || c.toNat < 0x80
  | .named negated => m.unicode || !negated
  | .category | .anyChar => m.unicode
  | .edge ofWord => !(m.unicode && ofWord)

/-- Whether a part may stand in a set of characters. -/
def Primitive.fitsSet (m : Mode) : Primitive → Bool
  | .char c _ => m.unicode || c.toNat < 0x80
  | .named negated => m.unicode || !negated
  | .category => m.unicode
  | .anyChar | .edge _ => false

end ImageForge.Regular
