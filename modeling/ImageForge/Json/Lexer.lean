import ImageForge.Json.Basic
/-!
The lexemes of a document. The lexer is one pass over the characters with a small state: outside
any lexeme, inside a text, a number or a word. A number is kept as it is written, and a text that
names half a pair of codes is a lexeme without a value.
-/

namespace ImageForge.Json

/-- Blanks between lexemes. -/
def isSpace (c : Char) : Bool := c == ' ' || c == '\t' || c == '\n' || c == '\r'

/-- Characters a number may hold; none of them can follow a number directly. -/
def isNumberChar (c : Char) : Bool :=
  c.isDigit || c == '-' || c == '+' || c == '.' || c == 'e' || c == 'E'

def digitValue (c : Char) : Nat := c.toNat - '0'.toNat

/-- The value of a hexadecimal digit of either case. -/
def hexValue? (c : Char) : Option Nat :=
  if c.isDigit then some (digitValue c)
  else if 'a' ≤ c ∧ c ≤ 'f' then some (c.toNat - 'a'.toNat + 10)
  else if 'A' ≤ c ∧ c ≤ 'F' then some (c.toNat - 'A'.toNat + 10)
  else none

/-- The largest integer that a document keeps without rounding. -/
def maxInteger : Nat := UInt64.size - 1

/-- Reads digits onto a significand while it stays below `2 ^ 64`; answers it and how many digits
were left over. -/
def takeSignificand (acc : Nat) : List Char → Nat × Nat
  | [] => (acc, 0)
  | c :: cs =>
    let next := acc * 10 + digitValue c
    if next ≤ maxInteger then takeSignificand next cs else (acc, cs.length + 1)

/-- The parts of a number as it is written. -/
structure NumberText where
  negative : Bool
  whole : List Char
  fraction : Option (List Char)
  exponent : Option (Bool × List Char)
  deriving DecidableEq, Repr

/-- Splits the text of a number: an optional minus, digits without a superfluous zero, an optional
fraction and an optional exponent, each with at least one digit. -/
def NumberText.of? (cs : List Char) : Option NumberText := do
  let (negative, cs) := match cs with
    | '-' :: rest => (true, rest)
    | _ => (false, cs)
  let whole := cs.takeWhile Char.isDigit
  let cs := cs.dropWhile Char.isDigit
  guard (whole ≠ [] ∧ (whole.head? = some '0' → whole = ['0']))
  let (fraction, cs) := match cs with
    | '.' :: rest => (some (rest.takeWhile Char.isDigit), rest.dropWhile Char.isDigit)
    | _ => (none, cs)
  guard (fraction ≠ some [])
  match cs with
  | [] => some ⟨negative, whole, fraction, none⟩
  | e :: rest =>
    guard (e = 'e' ∨ e = 'E')
    let (down, digits) := match rest with
      | '-' :: r => (true, r)
      | '+' :: r => (false, r)
      | r => (false, r)
    guard (digits ≠ [] ∧ digits.all Char.isDigit)
    some ⟨negative, whole, fraction, some (down, digits)⟩

/-- The natural written by some digits. -/
def ofDigits (cs : List Char) : Nat := cs.foldl (fun n c => n * 10 + digitValue c) 0

/-- The value of a number. Without fraction and exponent it is an integer as long as 64 bits hold
it, negative zero apart. Any other is a double: the significand is cut to the digits that fit in
64 bits, and then scaled by the power of ten; `none` when that overflows. -/
def NumberText.value? (t : NumberText) : Option JsonNumber :=
  let (sig, omitted) := takeSignificand 0 t.whole
  let real (sig : Nat) (k : Int) : Option JsonNumber := do
    let b ← Number.Binary64.scaleTen 4 (← Number.Binary64.ofNat sig) k
    some (.real (if t.negative then b.neg else b))
  match t.fraction, t.exponent with
  | none, none =>
    if omitted ≠ 0 then real sig omitted
    else if !t.negative then some (.int sig)
    else if sig = 0 ∨ Nat.pow 2 63 < sig then real sig 0
    else some (.int (-sig))
  | _, _ =>
    let fraction := t.fraction.getD []
    let (sig, dropped) := takeSignificand sig fraction
    let base : Int := (omitted : Int) - ((fraction.length : Int) - (dropped : Int))
    let shift : Int := match t.exponent with
      | none => 0
      | some (true, ds) => -(ofDigits ds : Int)
      | some (false, ds) => ofDigits ds
    real sig (base + shift)

inductive Token
  | openArr
  | closeArr
  | openObj
  | closeObj
  | colon
  | comma
  | null
  | bool (b : Bool)
  | number (t : NumberText)
  | text (s : Option String)
  deriving Repr, Inhabited

/-- A piece of a text: a character as it stands or by a short escape, or a code of four digits. -/
inductive TextUnit
  | char (c : Char)
  | code (n : Nat)
  deriving DecidableEq, Repr

/-- Codes that are the first half of a pair, and those that are the second. -/
def isHighHalf (n : Nat) : Bool := 0xD800 ≤ n && n < 0xDC00
def isLowHalf (n : Nat) : Bool := 0xDC00 ≤ n && n < 0xE000

/-- The characters of some pieces; a half without the other half has none. -/
def unitChars : List TextUnit → Option (List Char)
  | [] => some []
  | .char c :: rest => (unitChars rest).map (c :: ·)
  | .code high :: .code low :: rest =>
    if isHighHalf high then
      if isLowHalf low then
        (unitChars rest).map
          (Char.ofNat (0x10000 + (high - 0xD800) * 0x400 + (low - 0xDC00)) :: ·)
      else none
    else if isLowHalf high then none
    else (unitChars (.code low :: rest)).map (Char.ofNat high :: ·)
  | .code n :: rest =>
    if isHighHalf n || isLowHalf n then none else (unitChars rest).map (Char.ofNat n :: ·)

/-- What is pending inside a text after a backslash. -/
inductive Escape
  | none
  | begun
  | code (missing value : Nat)
  deriving DecidableEq, Repr

inductive LexState
  | between
  | inText (reversed : List TextUnit) (escape : Escape)
  | inNumber (reversed : List Char)
  | inWord (reversed : List Char)
  deriving Repr

/-- The lexeme that a finished word or number is. -/
def LexState.finish? : LexState → Option (List Token)
  | .between => some []
  | .inText _ _ => none
  | .inNumber cs => (NumberText.of? cs.reverse).map ([.number ·])
  | .inWord cs =>
    let word := String.ofList cs.reverse
    if word = "null" then some [.null]
    else if word = "true" then some [.bool true]
    else if word = "false" then some [.bool false]
    else none

/-- A character outside any lexeme. -/
def lexBetween (c : Char) : Option (List Token × LexState) :=
  match c with
  | '[' => some ([.openArr], .between)
  | ']' => some ([.closeArr], .between)
  | '\x7b' => some ([.openObj], .between)
  | '\x7d' => some ([.closeObj], .between)
  | ':' => some ([.colon], .between)
  | ',' => some ([.comma], .between)
  | '"' => some ([], .inText [] .none)
  | c =>
    if isSpace c then some ([], .between)
    else if isNumberChar c && c != 'e' && c != 'E' then some ([], .inNumber [c])
    else if c.isAlpha then some ([], .inWord [c])
    else none

/-- The character a one-letter escape stands for. -/
def shortEscape? : Char → Option Char
  | '"' => some '"'
  | '\\' => some '\\'
  | '/' => some '/'
  | 'b' => some '\x08'
  | 'f' => some '\x0c'
  | 'n' => some '\n'
  | 'r' => some '\r'
  | 't' => some '\t'
  | _ => none

/-- A character inside a text. -/
def lexText (us : List TextUnit) (escape : Escape) (c : Char) : Option (List Token × LexState) :=
  match escape with
  | .none =>
    if c = '"' then some ([.text ((unitChars us.reverse).map String.ofList)], .between)
    else if c = '\\' then some ([], .inText us .begun)
    else if c.toNat < 0x20 then Option.none
    else some ([], .inText (.char c :: us) .none)
  | .begun =>
    if c = 'u' then some ([], .inText us (.code 4 0))
    else (shortEscape? c).map fun x => ([], .inText (.char x :: us) .none)
  | .code missing value => do
    let value := value * 16 + (← hexValue? c)
    if missing ≤ 1 then some ([], .inText (.code value :: us) .none)
    else some ([], .inText us (.code (missing - 1) value))

/-- One character: the lexemes it completes and the state after it. -/
def lexStep (s : LexState) (c : Char) : Option (List Token × LexState) :=
  match s with
  | .between => lexBetween c
  | .inText us escape => lexText us escape c
  | .inNumber cs =>
    if isNumberChar c then some ([], .inNumber (c :: cs))
    else do
      let done ← s.finish?
      let (ts, next) ← lexBetween c
      some (done ++ ts, next)
  | .inWord cs =>
    if c.isAlpha then some ([], .inWord (c :: cs))
    else do
      let done ← s.finish?
      let (ts, next) ← lexBetween c
      some (done ++ ts, next)

/-- The lexemes of the characters from a state on, before which `reversed` came. -/
def lexFrom (reversed : List Token) (s : LexState) : List Char → Option (List Token)
  | [] => s.finish?.map fun ts => reversed.reverse ++ ts
  | c :: cs =>
    match lexStep s c with
    | some (ts, next) => lexFrom (ts.reverse ++ reversed) next cs
    | none => none

/-- The lexemes of a document. -/
def lex (cs : List Char) : Option (List Token) := lexFrom [] .between cs

end ImageForge.Json
