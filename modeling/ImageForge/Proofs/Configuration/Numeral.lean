import ImageForge.Controller.Config
import Mathlib.Algebra.Group.Nat.Defs
import Mathlib.Data.List.TakeWhile

/-! Numbers among the variables of the configuration. -/
namespace ImageForge.Controller

/-- A text writes a number in decimal digits, one at least, behind one plus sign at most. -/
def Writes (cs : List Char) (n : Nat) : Prop :=
  ∃ sign ds, cs = sign ++ ds ∧ (sign = [] ∨ sign = ['+']) ∧ ds ≠ [] ∧ (∀ c ∈ ds, c.isDigit) ∧
    Nat.ofDigitChars 10 ds 0 = n

/-- A text without the one plus sign that it may begin with. -/
def unsigned (cs : List Char) : List Char :=
  match cs with
  | '+' :: rest => rest
  | _ => cs

/-- What is told of a text that writes no number up to `most`: its digits, as far as they go, may be too
much already. -/
def numberFault (most : Nat) (cs : List Char) : NumberError :=
  if most < Nat.ofDigitChars 10 ((unsigned cs).takeWhile Char.isDigit) 0 then .tooLarge
  else .invalidDigit

variable {most acc n m : Nat} {cs ds : List Char} {c : Char}

theorem unsigned_of_ne (h : cs.head? ≠ some '+') : unsigned cs = cs := by
  unfold unsigned
  split
  next => exact absurd rfl h
  next => rfl

/-- The sign and the digits are told apart by the first character, as no digit is a plus sign. -/
theorem writes_iff : Writes cs n ↔ unsigned cs ≠ [] ∧ (∀ c ∈ unsigned cs, c.isDigit) ∧
    Nat.ofDigitChars 10 (unsigned cs) 0 = n := by
  constructor
  · rintro ⟨sign, ds, rfl, hsign, hne, hdigits, hvalue⟩
    have hunsigned : unsigned (sign ++ ds) = ds := by
      rcases hsign with rfl | rfl
      · apply unsigned_of_ne
        intro hplus
        have hdigit : '+'.isDigit := hdigits '+' (List.mem_of_head? hplus)
        exact absurd hdigit (by decide)
      · rfl
    rw [hunsigned]
    exact ⟨hne, hdigits, hvalue⟩
  · rintro ⟨hne, hdigits, hvalue⟩
    by_cases hplus : cs.head? = some '+'
    · obtain ⟨rest, rfl⟩ := List.head?_eq_some_iff.mp hplus
      exact ⟨['+'], rest, rfl, Or.inr rfl, hne, hdigits, hvalue⟩
    · rw [unsigned_of_ne hplus] at hne hdigits hvalue
      exact ⟨[], cs, rfl, Or.inl rfl, hne, hdigits, hvalue⟩

instance : Decidable (Writes cs n) :=
  decidable_of_iff (unsigned cs ≠ [] ∧ (unsigned cs).all Char.isDigit ∧
    Nat.ofDigitChars 10 (unsigned cs) 0 = n) (by rw [writes_iff, List.all_eq_true])

instance : Decidable (∃ n ≤ most, Writes cs n) :=
  decidable_of_iff (unsigned cs ≠ [] ∧ (unsigned cs).all Char.isDigit ∧
    Nat.ofDigitChars 10 (unsigned cs) 0 ≤ most) <| by
    rw [List.all_eq_true]
    constructor
    · rintro ⟨hne, hdigits, hle⟩
      exact ⟨_, hle, writes_iff.mpr ⟨hne, hdigits, rfl⟩⟩
    · rintro ⟨n, hle, hn⟩
      obtain ⟨hne, hdigits, rfl⟩ := writes_iff.mp hn
      exact ⟨hne, hdigits, hle⟩

theorem Writes.unique (hn : Writes cs n) (hm : Writes cs m) : n = m :=
  (writes_iff.mp hn).2.2.symm.trans (writes_iff.mp hm).2.2

theorem le_ofDigitChars (ds : List Char) (acc : Nat) : acc ≤ Nat.ofDigitChars 10 ds acc := by
  rw [Nat.ofDigitChars_eq_ofDigitChars_zero]
  have hpow : 1 ≤ 10 ^ ds.length := Nat.one_le_pow _ _ (by decide)
  have hle : acc ≤ 10 ^ ds.length * acc := Nat.le_mul_of_pos_left acc hpow
  omega

/-- The first character that is wrong decides: the digits before it are too much, or it is none. -/
theorem readDigits_eq (h : acc ≤ most) : readDigits most acc cs =
    if most < Nat.ofDigitChars 10 (cs.takeWhile Char.isDigit) acc then .error .tooLarge
    else if cs.all Char.isDigit then .ok (Nat.ofDigitChars 10 cs acc)
    else .error .invalidDigit := by
  induction cs generalizing acc with
  | nil =>
    have hnot : ¬ most < acc := by omega
    simp [readDigits, hnot]
  | cons c cs ih =>
    cases hc : c.isDigit with
    | false =>
      have hnot : ¬ most < acc := by omega
      simp [readDigits, hc, hnot]
    | true =>
      have hnext : 10 * acc + (c.toNat - '0'.toNat) = acc * 10 + (c.toNat - '0'.toNat) := by omega
      rw [List.takeWhile_cons_of_pos hc, Nat.ofDigitChars_cons, Nat.ofDigitChars_cons, hnext]
      by_cases hover : most < acc * 10 + (c.toNat - '0'.toNat)
      · have hle := le_ofDigitChars (cs.takeWhile Char.isDigit)
          (acc * 10 + (c.toNat - '0'.toNat))
        rw [if_pos (by omega)]
        simp only [readDigits, hc, Bool.not_true, Bool.false_eq_true, if_false, if_pos hover]
      · simp only [readDigits, hc, Bool.not_true, Bool.false_eq_true, if_false, if_neg hover,
          List.all_cons, Bool.true_and]
        exact ih (by omega)

theorem readNatural_eq_readDigits (most : Nat) (cs : List Char) : readNatural most cs =
    if unsigned cs = [] then .error .invalidDigit else readDigits most 0 (unsigned cs) := by
  by_cases hplus : cs.head? = some '+'
  · obtain ⟨rest, rfl⟩ := List.head?_eq_some_iff.mp hplus
    cases rest <;> rfl
  · rw [unsigned_of_ne hplus]
    cases cs with
    | nil => rfl
    | cons c rest =>
      have hc : c ≠ '+' := by simpa using hplus
      simp [readNatural, hc]

theorem readNatural_eq (most : Nat) (cs : List Char) : readNatural most cs =
    if most < Nat.ofDigitChars 10 ((unsigned cs).takeWhile Char.isDigit) 0 then .error .tooLarge
    else if unsigned cs ≠ [] ∧ (unsigned cs).all Char.isDigit then
      .ok (Nat.ofDigitChars 10 (unsigned cs) 0)
    else .error .invalidDigit := by
  rw [readNatural_eq_readDigits, readDigits_eq (Nat.zero_le most)]
  by_cases hempty : unsigned cs = [] <;> simp [hempty]

theorem readNatural_of_writes (hn : Writes cs n) (hle : n ≤ most) :
    readNatural most cs = .ok n := by
  obtain ⟨hne, hdigits, rfl⟩ := writes_iff.mp hn
  have htaken : (unsigned cs).takeWhile Char.isDigit = unsigned cs :=
    List.takeWhile_eq_self_iff.mpr hdigits
  rw [readNatural_eq, htaken, if_neg (by omega),
    if_pos ⟨hne, List.all_eq_true.mpr hdigits⟩]

theorem readNatural_of_not_writes (h : ¬ ∃ n ≤ most, Writes cs n) :
    readNatural most cs = .error (numberFault most cs) := by
  rw [readNatural_eq, numberFault]
  split
  next => rfl
  next hfits =>
    have hnot : ¬ (unsigned cs ≠ [] ∧ (unsigned cs).all Char.isDigit) := by
      rintro ⟨hne, hall⟩
      have hdigits : ∀ c ∈ unsigned cs, c.isDigit := List.all_eq_true.mp hall
      rw [List.takeWhile_eq_self_iff.mpr hdigits] at hfits
      exact h ⟨_, by omega, writes_iff.mpr ⟨hne, hdigits, rfl⟩⟩
    rw [if_neg hnot]

end ImageForge.Controller
