/-!
Finite double-precision numbers, held exactly: a sign, a mantissa and a power of two. Every operation
computes the exact quotient of two naturals and rounds it once, to the nearest double, ties to the
even mantissa.
-/

namespace ImageForge.Number

/-- The quotient rounded to the nearest natural, a half to the even neighbour. -/
def roundDiv (num den : Nat) : Nat :=
  let q := num / den
  let twice := 2 * (num % den)
  if twice < den then q
  else if den < twice then q + 1
  else q + q % 2

/-- The number `± mantissa * 2 ^ exponent`. Mantissas are below `2 ^ 53`, and as large as the least
exponent `-1074` allows. -/
structure Binary64 where
  negative : Bool
  mantissa : Nat
  exponent : Int
  deriving DecidableEq, Repr, Inhabited

namespace Binary64

/-- The least exponent, that of the subnormal numbers. -/
def minExponent : Int := -1074

/-- The greatest exponent of a finite number. -/
def maxExponent : Int := 971

def zero : Binary64 := ⟨false, 0, minExponent⟩

/-- The numerator and the denominator of `mantissa * 2 ^ exponent`. -/
def ratio (b : Binary64) : Nat × Nat :=
  if b.exponent ≥ 0 then (b.mantissa * Nat.pow 2 b.exponent.toNat, 1)
  else (b.mantissa, Nat.pow 2 (-b.exponent).toNat)

/-- The exponent at which `num / den` has a mantissa of 53 bits, or the least one. -/
def exponentFor (num den : Nat) : Int :=
  let guess : Int := (Nat.log2 num : Int) - (Nat.log2 den : Int) - 52
  let below :=
    if guess ≥ 0 then num < den * Nat.pow 2 (52 + guess.toNat)
    else num * Nat.pow 2 (-guess).toNat < den * Nat.pow 2 52
  max minExponent (if below then guess - 1 else guess)

/-- The double nearest to `num / den`; `none` when it is too large to be finite. -/
def ofRatio (negative : Bool) (num den : Nat) : Option Binary64 :=
  if num = 0 then some ⟨negative, 0, minExponent⟩
  else
    let e := exponentFor num den
    let m := if e ≥ 0 then roundDiv num (den * Nat.pow 2 e.toNat)
      else roundDiv (num * Nat.pow 2 (-e).toNat) den
    let (m, e) := if m = Nat.pow 2 53 then (Nat.pow 2 52, e + 1) else (m, e)
    if e > maxExponent then none else some ⟨negative, m, e⟩

/-- The double nearest to a natural. -/
def ofNat (n : Nat) : Option Binary64 := ofRatio false n 1

/-- The double nearest to `10 ^ k`. -/
def powTen (k : Nat) : Option Binary64 := ofNat (Nat.pow 10 k)

def mul (a b : Binary64) : Option Binary64 :=
  ofRatio (a.negative != b.negative) (a.ratio.1 * b.ratio.1) (a.ratio.2 * b.ratio.2)

def div (a b : Binary64) : Option Binary64 :=
  ofRatio (a.negative != b.negative) (a.ratio.1 * b.ratio.2) (a.ratio.2 * b.ratio.1)

def neg (b : Binary64) : Binary64 := { b with negative := !b.negative }

/-- The greatest power of ten that is a finite double. -/
def maxPowTen : Nat := 308

/-- Multiplies by a power of ten in double arithmetic. A power beyond `10 ^ 308` overflows, and one
below `10 ^ -308` is divided out in steps, of which two bring every significand of 64 bits to zero. -/
def scaleTen : Nat → Binary64 → Int → Option Binary64
  | 0, b, _ => some { b with mantissa := 0, exponent := minExponent }
  | steps + 1, b, k =>
    if k.natAbs ≤ maxPowTen then do
      let p ← powTen k.natAbs
      if k ≥ 0 then b.mul p else b.div p
    else if b.mantissa = 0 then some b
    else if k ≥ 0 then none
    else do
      let p ← powTen maxPowTen
      scaleTen steps (← b.div p) (k + maxPowTen)

end Binary64

end ImageForge.Number
