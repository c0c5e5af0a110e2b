import ImageForge.Text.Blank
import ImageForge.Time.Instant
/-!
Reading an instant from a date, a time of day and an offset. The form is RFC 3339 with some leave:
blanks around the parts, one-digit parts, a blank for the `T`, `UTC` for the offset, and an offset
without colon.
-/

namespace ImageForge.Time

inductive TimeError
  | tooShort
  | invalid
  | outOfRange
  | trailing
  | impossible
  deriving DecidableEq, Repr

def TimeError.message : TimeError → String
  | .tooShort => "premature end of input"
  | .invalid => "input contains invalid characters"
  | .outOfRange => "input is out of range"
  | .trailing => "trailing input"
  | .impossible => "no possible date and time matching input"

def skipBlanks (cs : List Char) : List Char := cs.dropWhile Text.isBlank

def digitsValue (cs : List Char) : Nat :=
  cs.foldl (fun n c => n * 10 + (c.toNat - '0'.toNat)) 0

/-- Between one and `width` digits. -/
def number (width : Nat) (cs : List Char) : Except TimeError (Nat × List Char) :=
  match cs with
  | [] => .error .tooShort
  | c :: _ =>
    if !c.isDigit then .error .invalid
    else
      let ds := (cs.take width).takeWhile Char.isDigit
      let n := digitsValue ds
      if n < Nat.pow 2 63 then .ok (n, cs.drop ds.length) else .error .outOfRange

/-- A number after blanks, in a range. -/
def numberIn (width low high : Nat) (cs : List Char) : Except TimeError (Nat × List Char) := do
  let (n, rest) ← number width (skipBlanks cs)
  if low ≤ n ∧ n ≤ high then .ok (n, rest) else .error .outOfRange

/-- A year: four digits, or any number of them after a sign. -/
def year (cs : List Char) : Except TimeError (Int × List Char) := do
  let cs := skipBlanks cs
  let (n, rest) ← match cs with
    | '-' :: cs => (number cs.length cs).map fun (n, rest) => (-(n : Int), rest)
    | '+' :: cs => (number cs.length cs).map fun (n, rest) => ((n : Int), rest)
    | cs => (number 4 cs).map fun (n, rest) => ((n : Int), rest)
  if Int32.minValue.toInt ≤ n ∧ n ≤ Int32.maxValue.toInt then .ok (n, rest) else .error .outOfRange

/-- A separator after blanks. -/
def separator (sep : Char) (cs : List Char) : Except TimeError (List Char) :=
  match skipBlanks cs with
  | [] => .error .tooShort
  | c :: rest => if c = sep then .ok rest else .error .invalid

/-- An optional point and fraction; digits beyond the ninth are dropped. -/
def fraction (cs : List Char) : Except TimeError (Nat × List Char) :=
  match cs with
  | '.' :: cs => do
    let (n, rest) ← number 9 cs
    let used := cs.length - rest.length
    .ok (n * Nat.pow 10 (9 - used), rest.dropWhile Char.isDigit)
  | cs => .ok (0, cs)

/-- The minutes of an offset. A character outside ASCII is too long to be a lone digit. -/
def offsetMinutes (cs : List Char) : Except TimeError (Nat × List Char) :=
  match cs with
  | a :: b :: rest =>
    if a.isDigit && b.isDigit then
      if a ≤ '5' then .ok (digitsValue [a, b], rest) else .error .outOfRange
    else .error .invalid
  | [] => .error .tooShort
  | [c] => if c.toNat < 0x80 then .error .tooShort else .error .invalid

/-- An offset in seconds: `Z`, `UTC`, or a sign, two digits of hours and the minutes. -/
def offset (cs : List Char) : Except TimeError (Int × List Char) :=
  let cs := skipBlanks cs
  match cs with
  | [] => .error .tooShort
  | c :: rest =>
    if (cs.take 3).map Char.toUpper = ['U', 'T', 'C'] then .ok (0, cs.drop 3)
    else if c = 'Z' ∨ c = 'z' then .ok (0, rest)
    else if c = '+' ∨ c = '-' ∨ c = '−' then
      match rest with
      | a :: b :: rest =>
        if a.isDigit && b.isDigit then do
          let rest := rest.dropWhile fun c => c == ':' || Text.isBlank c
          let (minutes, rest) ← offsetMinutes rest
          let seconds : Int := digitsValue [a, b] * 3600 + minutes * 60
          .ok (if c = '+' then seconds else -seconds, rest)
        else .error .invalid
      | [a] => if a.toNat < 0x80 then .error .tooShort else .error .invalid
      | [] => .error .tooShort
    else .error .invalid

end ImageForge.Time

namespace ImageForge

open Time in
/-- The instant that a text writes. In UTC too it must lie in a year that a date may have. -/
def Instant.parse (s : String) : Except TimeError Instant := do
  let (y, cs) ← year s.toList
  let cs ← separator '-' cs
  let (month, cs) ← numberIn 2 1 12 cs
  let cs ← separator '-' cs
  let (day, cs) ← numberIn 2 1 31 cs
  let cs ← match cs with
    | [] => .error .tooShort
    | c :: rest => if c = 'T' ∨ c = 't' ∨ c = ' ' then .ok rest else .error .invalid
  let (hour, cs) ← numberIn 2 0 23 cs
  let cs ← separator ':' cs
  let (minute, cs) ← numberIn 2 0 59 cs
  let cs ← separator ':' cs
  let (second, cs) ← numberIn 2 0 60 cs
  let (nanos, cs) ← fraction cs
  let (shift, cs) ← offset cs
  if skipBlanks cs ≠ [] then .error .trailing
  let date : Date := ⟨y, month, day⟩
  if !date.isValid ∨ 86400 ≤ shift.natAbs then .error .outOfRange
  let ofDay : Int := (hour : Int) * 3600 + (minute : Int) * 60 + (min second 59 : Nat)
  let seconds := date.toDays * 86400 + ofDay - shift
  if !(Date.ofDays (Int.fdiv seconds 86400)).isValid then .error .impossible
  .ok ⟨seconds, nanos + (if second = 60 then 1000000000 else 0)⟩

end ImageForge
