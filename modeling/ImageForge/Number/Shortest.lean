import ImageForge.Number.Binary64
/-!
The shortest decimal digits of a double: of the decimals that round to it, those with the fewest
digits, and of those the nearest.
-/

namespace ImageForge.Number

/-- The digits `digits` (no trailing zero) read as `0.d₁d₂… * 10 ^ point`. -/
structure Digits where
  digits : List Char
  point : Int
  deriving DecidableEq, Repr

namespace Binary64

/-- The interval of reals that round to a double, over one denominator: lower end, value and upper
end, and the denominator. -/
structure Interval where
  low : Nat
  value : Nat
  high : Nat
  den : Nat
  closed : Bool

/-- Below a power of two the doubles lie twice as dense, so the interval reaches down half as far. -/
def interval (b : Binary64) : Interval :=
  let (num, den) := b.ratio
  let unit := if b.exponent ≥ 0 then Nat.pow 2 b.exponent.toNat else 1
  let down := if b.mantissa = Nat.pow 2 52 ∧ b.exponent ≠ minExponent then unit else 2 * unit
  ⟨4 * num - down, 4 * num, 4 * num + 2 * unit, 4 * den, b.mantissa % 2 = 0⟩

def Interval.holds (i : Interval) (num den : Nat) : Bool :=
  let low := i.low * den
  let high := i.high * den
  let x := num * i.den
  if i.closed then low ≤ x && x ≤ high else low < x && x < high

/-- The multiple of `10 ^ p` nearest to the value among its two neighbours that round to it. -/
def Interval.nearest? (i : Interval) (p : Int) : Option Nat :=
  let up := if p ≥ 0 then Nat.pow 10 p.toNat else 1
  let down := if p ≥ 0 then 1 else Nat.pow 10 (-p).toNat
  let d := i.value * down / (i.den * up)
  let lower := i.holds (d * up) down
  let upper := i.holds ((d + 1) * up) down
  if lower && upper then
    let twice := 2 * (i.value * down)
    let mid := (2 * d + 1) * up * i.den
    if twice < mid then some d
    else if mid < twice then some (d + 1)
    else some (d + d % 2)
  else if lower then some d
  else if upper then some (d + 1)
  else none

/-- The place of the leading decimal digit of `num / den`, tried downwards from an upper bound. -/
def leadingPlace (num den : Nat) : Nat → Int → Int
  | 0, p => p
  | tries + 1, p =>
    let reached := if p ≥ 0 then den * Nat.pow 10 p.toNat ≤ num else den ≤ num * Nat.pow 10 (-p).toNat
    if reached then p else leadingPlace num den tries (p - 1)

/-- Tries 1, 2, … digits; 17 always suffice. -/
def searchDigits (i : Interval) (lead : Int) : Nat → Nat → Nat × Int
  | 0, _ => (0, 0)
  | tries + 1, k =>
    let p := lead + 1 - k
    match i.nearest? p with
    | some d => (d, p)
    | none => searchDigits i lead tries (k + 1)

/-- The shortest digits of a double that is not zero; of zero the digit `0`. -/
def shortest (b : Binary64) : Digits :=
  if b.mantissa = 0 then ⟨['0'], 1⟩
  else
    let i := b.interval
    let bits : Int := (Nat.log2 b.mantissa : Int) + b.exponent
    let top : Int := (bits + 1) * 30103 / 100000 + 1
    let lead := leadingPlace i.value i.den 4 top
    let (d, p) := searchDigits i lead 17 1
    let ds := Nat.toDigits 10 d
    let kept := (ds.reverse.dropWhile (· = '0')).reverse
    ⟨kept, p + ds.length⟩

/-- The sign of a number that is written, negative zero included. -/
def signChars (b : Binary64) : List Char := if b.negative then ['-'] else []

/-- Positional digits: `ds` with the point after `point` places, and at least one digit on each
side. -/
def positional (d : Digits) : List Char :=
  let n := d.digits.length
  if d.point ≤ 0 then
    ['0', '.'] ++ List.replicate (-d.point).toNat '0' ++ d.digits
  else if d.point.toNat ≥ n then
    d.digits ++ List.replicate (d.point.toNat - n) '0' ++ ['.', '0']
  else d.digits.take d.point.toNat ++ ['.'] ++ d.digits.drop d.point.toNat

/-- Scientific digits, with a sign on the exponent always. -/
def scientific (d : Digits) : List Char :=
  let e := d.point - 1
  let mantissa := match d.digits with
    | [] => []
    | [c] => [c]
    | c :: cs => c :: '.' :: cs
  mantissa ++ ['e', if e < 0 then '-' else '+'] ++ Nat.toDigits 10 e.natAbs

/-- A double in a document: positional when the leading digit stands at a place from `10 ^ -5` to
`10 ^ 15`, scientific otherwise. -/
def documentChars (b : Binary64) : List Char :=
  let d := b.shortest
  let e := d.point - 1
  b.signChars ++ (if -5 ≤ e ∧ e ≤ 15 then positional d else scientific d)

end Binary64

end ImageForge.Number
