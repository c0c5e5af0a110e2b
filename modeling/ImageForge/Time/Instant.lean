import ImageForge.Time.Calendar
/-!
Points in time and their text in UTC.
-/

namespace ImageForge

/-- A point in time: seconds since 1970-01-01T00:00:00Z and nanoseconds. From `10 ^ 9` nanoseconds
on it lies in the leap second that follows the given one. -/
structure Instant where
  seconds : Int
  nanos : Nat
  deriving DecidableEq, Repr, Inhabited

namespace Instant

open Time

/-- A number with at least `width` digits. -/
def padded (width n : Nat) : List Char :=
  let ds := Nat.toDigits 10 n
  List.replicate (width - ds.length) '0' ++ ds

/-- Four digits, and a sign when the year does not have exactly four. -/
def yearChars (y : Int) : List Char :=
  if 0 ≤ y ∧ y ≤ 9999 then padded 4 y.toNat
  else (if y < 0 then '-' else '+') :: padded 4 y.natAbs

/-- The fraction of a second in 3, 6 or 9 digits, the fewest that hold it; none when it is zero. -/
def fractionChars (nanos : Nat) : List Char :=
  if nanos = 0 then []
  else if nanos % 1000000 = 0 then '.' :: padded 3 (nanos / 1000000)
  else if nanos % 1000 = 0 then '.' :: padded 6 (nanos / 1000)
  else '.' :: padded 9 nanos

/-- The date and the time of day up to the second; a leap second is second 60. -/
def secondsChars (t : Instant) : List Char :=
  let days := Int.fdiv t.seconds 86400
  let rest := (t.seconds - days * 86400).toNat
  let d := Date.ofDays days
  let second := rest % 60 + (if t.nanos ≥ 1000000000 then 1 else 0)
  yearChars d.year ++ '-' :: padded 2 d.month ++ '-' :: padded 2 d.day ++ 'T' ::
    padded 2 (rest / 3600) ++ ':' :: padded 2 (rest / 60 % 60) ++ ':' :: padded 2 second

/-- The full text of an instant. -/
def render (t : Instant) : String :=
  String.ofList (t.secondsChars ++ fractionChars (t.nanos % 1000000000) ++ ['Z'])

/-- The text of an instant without the fraction of its second. -/
def renderSeconds (t : Instant) : String := String.ofList (t.secondsChars ++ ['Z'])

/-- The instant without the fraction of its second. -/
def dropFraction (t : Instant) : Instant :=
  { t with nanos := if t.nanos ≥ 1000000000 then 1000000000 else 0 }

end Instant

end ImageForge
