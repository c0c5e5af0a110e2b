import ImageForge.Proofs.Json.Rendering
import ImageForge.Proofs.Outcome
import ImageForge.Proofs.Time.Calendar
import ImageForge.Time.Reader
import Mathlib.Algebra.Group.Nat.Defs

/-! Instants are read back from their texts. -/
namespace ImageForge.Time

open Instant Text

variable {c : Char} {ds rest : List Char} {width n low high : Nat}

theorem digitsValue_eq (cs : List Char) : digitsValue cs = Nat.ofDigitChars 10 cs 0 := by
  simp only [digitsValue, Nat.ofDigitChars, Nat.mul_comm]

theorem digitsValue_padded (width n : Nat) : digitsValue (padded width n) = n := by
  simp [digitsValue_eq, padded, Nat.ofDigitChars_append]

theorem isDigit_padded (h : c ∈ padded width n) : c.isDigit := by
  simp only [padded, List.mem_append, List.mem_replicate] at h
  obtain ⟨-, rfl⟩ | h := h
  · rfl
  · exact Nat.isDigit_of_mem_toDigits (by decide) (by decide) h

theorem padded_ne_nil (width n : Nat) : padded width n ≠ [] := by
  simp [padded]

theorem length_padded (hw : 0 < width) (hn : n < 10 ^ width) : (padded width n).length = width := by
  have hle := (Nat.length_toDigits_le_iff (by decide) hw).mpr hn
  simp only [padded, List.length_append, List.length_replicate]
  omega

theorem skipBlanks_cons (h : isBlank c = false) : skipBlanks (c :: rest) = c :: rest := by
  simp [skipBlanks, h]

theorem skipBlanks_padded (width n : Nat) (rest : List Char) :
    skipBlanks (padded width n ++ rest) = padded width n ++ rest := by
  obtain ⟨d, ds, hds⟩ := List.exists_cons_of_ne_nil (padded_ne_nil width n)
  have hd : d.isDigit := isDigit_padded (hds ▸ List.mem_cons_self)
  rw [hds]
  exact skipBlanks_cons (isBlank_of_isDigit hd)

theorem number_digits (width : Nat) (rest : List Char) (hne : ds ≠ []) (hds : ∀ c ∈ ds, c.isDigit)
    (hval : digitsValue ds < 2 ^ 63)
    (hstop : ds.length = width ∨
      ds.length ≤ width ∧ ∃ c cs, rest = c :: cs ∧ c.isDigit = false) :
    number width (ds ++ rest) = .ok (digitsValue ds, rest) := by
  have htaken : ((ds ++ rest).take width).takeWhile Char.isDigit = ds := by
    obtain hlen | ⟨hlen, c, cs, rfl, hc⟩ := hstop
    · rw [List.take_left' hlen, List.takeWhile_eq_self_iff.mpr hds]
    · rw [List.take_append, List.take_of_length_le hlen, List.takeWhile_append_of_pos hds]
      cases width - ds.length with
      | zero => simp
      | succ k => simp [hc]
  obtain ⟨d, cs, rfl⟩ := List.exists_cons_of_ne_nil hne
  have hd : d.isDigit := hds d List.mem_cons_self
  rw [List.cons_append] at htaken ⊢
  have hbound : digitsValue (d :: cs) < Nat.pow 2 63 := hval
  simp only [number, hd, htaken, if_pos hbound]
  simp

theorem number_padded (rest : List Char) (hw : 0 < width) (hn : n < 10 ^ width)
    (hwide : width ≤ 18) : number width (padded width n ++ rest) = .ok (n, rest) := by
  have hpow : (10 : Nat) ^ width ≤ 10 ^ 18 := Nat.pow_le_pow_right (by decide) hwide
  have hnumber := number_digits width rest (padded_ne_nil width n) (fun c => isDigit_padded)
    (by rw [digitsValue_padded]; omega) (Or.inl (length_padded hw hn))
  rwa [digitsValue_padded] at hnumber

theorem numberIn_padded (rest : List Char) (hw : 0 < width) (hn : n < 10 ^ width)
    (hwide : width ≤ 18) (hlow : low ≤ n) (hhigh : n ≤ high) :
    numberIn width low high (padded width n ++ rest) = .ok (n, rest) := by
  rw [numberIn, skipBlanks_padded, number_padded rest hw hn hwide]
  exact if_pos ⟨hlow, hhigh⟩

theorem separator_cons (h : isBlank c = false) : separator c (c :: rest) = .ok rest := by
  rw [separator, skipBlanks_cons h]
  exact if_pos rfl

theorem isDigit_ne (h : c.isDigit) : c ≠ '-' ∧ c ≠ '+' := by
  constructor <;> rintro rfl <;> exact absurd h (by decide)

theorem number_signed (rest : List Char) (hn : n < 2 ^ 63) :
    number (padded 4 n ++ '-' :: rest).length (padded 4 n ++ '-' :: rest) = .ok (n, '-' :: rest) := by
  have hnumber := number_digits (padded 4 n ++ '-' :: rest).length ('-' :: rest) (padded_ne_nil 4 n)
    (fun c => isDigit_padded) (by rwa [digitsValue_padded]) (Or.inr ⟨by simp, '-', rest, rfl, rfl⟩)
  rwa [digitsValue_padded] at hnumber

theorem year_chars {y : Int} (rest : List Char) (hlow : minYear ≤ y) (hhigh : y ≤ maxYear) :
    year (yearChars y ++ '-' :: rest) = .ok (y, '-' :: rest) := by
  have hword : Int32.minValue.toInt ≤ y ∧ y ≤ Int32.maxValue.toInt := by
    have hmin : Int32.minValue.toInt ≤ minYear := by decide
    have hmax : maxYear ≤ Int32.maxValue.toInt := by decide
    omega
  have habs : y.natAbs < 2 ^ 63 := by
    simp only [minYear, maxYear] at hlow hhigh
    omega
  unfold yearChars
  split
  next hfour =>
    have hnumber : number 4 (padded 4 y.toNat ++ '-' :: rest) = .ok (y.toNat, '-' :: rest) :=
      number_padded ('-' :: rest) (by decide) (by omega) (by decide)
    have hy : (y.toNat : Int) = y := by omega
    rw [year, skipBlanks_padded]
    obtain ⟨d, ds, hds⟩ := List.exists_cons_of_ne_nil (padded_ne_nil 4 y.toNat)
    obtain ⟨hminus, hplus⟩ := isDigit_ne (isDigit_padded (hds ▸ List.mem_cons_self))
    rw [hds, List.cons_append] at hnumber ⊢
    split
    next heq => exact absurd (List.cons.inj heq).1 hminus
    next heq => exact absurd (List.cons.inj heq).1 hplus
    next => simp only [hnumber, Except.map, bind, Except.bind, hy, if_pos hword]
  next hsigned =>
    by_cases hneg : y < 0
    · have hy : -(y.natAbs : Int) = y := by omega
      rw [if_pos hneg, List.cons_append, year, skipBlanks_cons (by decide)]
      simp only [number_signed rest habs, Except.map, bind, Except.bind, hy, if_pos hword]
    · have hy : (y.natAbs : Int) = y := by omega
      rw [if_neg hneg, List.cons_append, year, skipBlanks_cons (by decide)]
      simp only [number_signed rest habs, Except.map, bind, Except.bind, hy, if_pos hword]

theorem fraction_padded {nanos : Nat} (hw : 0 < width) (hn : n < 10 ^ width) (hwide : width ≤ 9)
    (hnanos : n * 10 ^ (9 - width) = nanos) :
    fraction ('.' :: padded width n ++ ['Z']) = .ok (nanos, ['Z']) := by
  have hlen := length_padded hw hn
  have hpow : (10 : Nat) ^ width ≤ 10 ^ 9 := Nat.pow_le_pow_right (by decide) hwide
  have hnumber := number_digits 9 ['Z'] (padded_ne_nil width n) (fun c => isDigit_padded)
    (by rw [digitsValue_padded]; omega) (Or.inr ⟨by omega, 'Z', [], rfl, rfl⟩)
  rw [digitsValue_padded] at hnumber
  rw [List.cons_append, ← hnanos]
  simp only [fraction, hnumber, bind, Except.bind, List.length_append, hlen, Nat.add_sub_cancel]
  rfl

theorem fraction_chars (hn : n < 10 ^ 9) : fraction (fractionChars n ++ ['Z']) = .ok (n, ['Z']) := by
  unfold fractionChars
  split
  next hzero =>
    subst hzero
    rfl
  next =>
    split
    next hmilli => exact fraction_padded (by decide) (by omega) (by decide) (by omega)
    next =>
      split
      next hmicro => exact fraction_padded (by decide) (by omega) (by decide) (by omega)
      next => exact fraction_padded (by decide) (by omega) (by decide) (by omega)

theorem digit_le (h : c.isDigit) : c.toNat - '0'.toNat ≤ 9 := by
  have hrange := Char.isDigit_iff_toNat.mp h
  have hnine : '9'.toNat = '0'.toNat + 9 := rfl
  omega

theorem digitsValue_lt {cs : List Char} (h : ∀ c ∈ cs, c.isDigit) :
    digitsValue cs < 10 ^ cs.length := by
  have hfrom : ∀ n, cs.foldl (fun n c => n * 10 + (c.toNat - '0'.toNat)) n <
      (n + 1) * 10 ^ cs.length := by
    induction cs with
    | nil => simp
    | cons c cs ih =>
      intro n
      have hc := digit_le (h c List.mem_cons_self)
      calc (c :: cs).foldl (fun n c => n * 10 + (c.toNat - '0'.toNat)) n
        _ < (n * 10 + (c.toNat - '0'.toNat) + 1) * 10 ^ cs.length :=
          ih (fun d hd => h d (List.mem_cons_of_mem c hd)) _
        _ ≤ (n + 1) * 10 * 10 ^ cs.length := Nat.mul_le_mul_right _ (by omega)
        _ = (n + 1) * 10 ^ (c :: cs).length := by
          rw [List.length_cons, Nat.pow_succ', Nat.mul_assoc]
  simpa [digitsValue] using hfrom 0

theorem number_ok {cs : List Char} (h : number width cs = .ok (n, rest)) :
    n < 10 ^ (cs.length - rest.length) ∧ cs.length - rest.length ≤ width := by
  cases cs with
  | nil => cases h
  | cons c cs =>
    simp only [number] at h
    split at h
    · cases h
    split at h
    next =>
      obtain ⟨rfl, rfl⟩ := Prod.mk.inj (Except.ok.inj h)
      generalize htaken : ((c :: cs).take width).takeWhile Char.isDigit = ds
      have hle : ds.length ≤ (c :: cs).length ∧ ds.length ≤ width := by
        have htake := (List.takeWhile_prefix Char.isDigit (l := (c :: cs).take width)).length_le
        rw [htaken, List.length_take] at htake
        omega
      have hlen : (c :: cs).length - ((c :: cs).drop ds.length).length = ds.length := by
        rw [List.length_drop]
        omega
      rw [hlen]
      exact ⟨digitsValue_lt fun d hd => List.mem_takeWhile_imp (htaken ▸ hd), hle.2⟩
    next => cases h

theorem numberIn_ok {cs : List Char} (h : numberIn width low high cs = .ok (n, rest)) :
    low ≤ n ∧ n ≤ high := by
  obtain ⟨⟨k, rest'⟩, -, h⟩ := ok_of_bind h
  dsimp only at h
  split at h
  next hin =>
    cases h
    exact hin
  next => cases h

theorem fraction_ok {cs : List Char} (h : fraction cs = .ok (n, rest)) : n < 10 ^ 9 := by
  unfold fraction at h
  split at h
  next cs =>
    obtain ⟨⟨k, rest'⟩, hnumber, h⟩ := ok_of_bind h
    obtain ⟨hk, hused⟩ := number_ok hnumber
    cases h
    generalize cs.length - rest'.length = used at *
    calc k * 10 ^ (9 - used)
      _ < 10 ^ used * 10 ^ (9 - used) := Nat.mul_lt_mul_of_pos_right hk (Nat.pow_pos (by decide))
      _ = 10 ^ 9 := by rw [← Nat.pow_add, Nat.add_sub_cancel' hused]
  next =>
    cases h
    decide

theorem offset_ok {cs : List Char} {shift : Int} (h : offset cs = .ok (shift, rest)) :
    shift % 60 = 0 := by
  unfold offset at h
  dsimp only at h
  split at h
  · cases h
  split at h
  · cases h
    rfl
  split at h
  · cases h
    rfl
  split at h
  next =>
    split at h
    next =>
      split at h
      next =>
        obtain ⟨⟨minutes, rest'⟩, -, h⟩ := ok_of_bind h
        cases h
        split <;> omega
      next => cases h
    next => split at h <;> cases h
    next => cases h
  next => cases h

theorem daysInMonth_le (y : Int) (m : Nat) : daysInMonth y m ≤ 31 := by
  unfold daysInMonth
  split
  · split <;> decide
  · split <;> decide

end ImageForge.Time

namespace ImageForge

open Time

/-- An instant of a year that a date may have. A leap second follows the last second of a minute. -/
structure Instant.IsValid (t : Instant) : Prop where
  date : (Date.ofDays (Int.fdiv t.seconds 86400)).isValid
  nanos : t.nanos < 2000000000
  leap : 1000000000 ≤ t.nanos → t.seconds % 60 = 59

namespace Instant

variable {t : Instant}

/-- An instant is read back from its text. -/
theorem parse_render (h : t.IsValid) : parse t.render = .ok t := by
  have hvalid := h.date
  have htoDays := Date.toDays_ofDays (Int.fdiv t.seconds 86400)
  simp only [render, secondsChars, parse, String.toList_ofList, List.append_assoc, List.cons_append]
  generalize hofDays : Date.ofDays (Int.fdiv t.seconds 86400) = d at *
  have hd := hvalid
  simp only [Date.isValid, Bool.and_eq_true, decide_eq_true_eq] at hd
  obtain ⟨⟨⟨⟨⟨hlow, hhigh⟩, hfirstMonth⟩, hlastMonth⟩, hfirstDay⟩, hlastDay⟩ := hd
  have hmonthEnd := daysInMonth_le d.year d.month
  -- The second of the day, and the one that is written, which is 60 in a leap second.
  generalize hr : (t.seconds - Int.fdiv t.seconds 86400 * 86400).toNat = r
  generalize hs : r % 60 + (if t.nanos ≥ 1000000000 then 1 else 0) = second
  have hof : t.seconds = Int.fdiv t.seconds 86400 * 86400 + r ∧ r < 86400 := by
    rw [← hr, Int.fdiv_eq_ediv_of_nonneg _ (by decide)]
    omega
  have hwritten : second ≤ 60 ∧ min second 59 = r % 60 ∧
      (second = 60 ↔ 1000000000 ≤ t.nanos) := by
    have hleap := h.leap
    split at hs <;> omega
  have hyear : ∀ cs, year (yearChars d.year ++ '-' :: cs) = .ok (d.year, '-' :: cs) :=
    fun cs => year_chars cs hlow hhigh
  have hmonth : ∀ cs, numberIn 2 1 12 (padded 2 d.month ++ cs) = .ok (d.month, cs) :=
    fun cs => numberIn_padded cs (by decide) (by omega) (by decide) hfirstMonth hlastMonth
  have hday : ∀ cs, numberIn 2 1 31 (padded 2 d.day ++ cs) = .ok (d.day, cs) :=
    fun cs => numberIn_padded cs (by decide) (by omega) (by decide) hfirstDay (by omega)
  have hhour : ∀ cs, numberIn 2 0 23 (padded 2 (r / 3600) ++ cs) = .ok (r / 3600, cs) :=
    fun cs => numberIn_padded cs (by decide) (by omega) (by decide) (Nat.zero_le _) (by omega)
  have hminute : ∀ cs, numberIn 2 0 59 (padded 2 (r / 60 % 60) ++ cs) = .ok (r / 60 % 60, cs) :=
    fun cs => numberIn_padded cs (by decide) (by omega) (by decide) (Nat.zero_le _) (by omega)
  have hsecond : ∀ cs, numberIn 2 0 60 (padded 2 second ++ cs) = .ok (second, cs) :=
    fun cs => numberIn_padded cs (by decide) (by omega) (by decide) (Nat.zero_le _) hwritten.1
  have hfraction : fraction (fractionChars (t.nanos % 1000000000) ++ ['Z']) =
      .ok (t.nanos % 1000000000, ['Z']) := fraction_chars (by omega)
  have hzone : offset ['Z'] = .ok (0, []) := rfl
  have hdash : ∀ cs, separator '-' ('-' :: cs) = .ok cs := fun cs => separator_cons (by decide)
  have hcolon : ∀ cs, separator ':' (':' :: cs) = .ok cs := fun cs => separator_cons (by decide)
  have hseconds : d.toDays * 86400 + ((r / 3600 : Nat) * 3600 + (r / 60 % 60 : Nat) * 60 +
      (min second 59 : Nat)) - 0 = t.seconds := by
    rw [htoDays, hwritten.2.1]
    omega
  have hnanos : t.nanos % 1000000000 + (if second = 60 then 1000000000 else 0) = t.nanos := by
    have hbound := h.nanos
    split <;> omega
  simp only [hyear, hdash, hmonth, hday, hhour, hcolon, hminute, hsecond, hfraction, hzone, bind,
    Except.bind]
  rw [if_pos (Or.inl trivial), if_neg (by simp [skipBlanks]), if_neg (by simp [hvalid]), hseconds,
    hofDays, if_neg (by simp [hvalid]), hnanos]

theorem isValid_of_parse {text : String} (h : parse text = .ok t) : t.IsValid := by
  obtain ⟨⟨y, _⟩, -, h⟩ := ok_of_bind h
  obtain ⟨_, -, h⟩ := ok_of_bind h
  obtain ⟨⟨month, _⟩, -, h⟩ := ok_of_bind h
  obtain ⟨_, -, h⟩ := ok_of_bind h
  obtain ⟨⟨day, cs⟩, -, h⟩ := ok_of_bind h
  dsimp only at h
  split at h
  · cases h
  next c rest =>
    split at h
    next =>
      obtain ⟨_, -, h⟩ := ok_of_bind h
      obtain ⟨⟨hour, _⟩, -, h⟩ := ok_of_bind h
      obtain ⟨_, -, h⟩ := ok_of_bind h
      obtain ⟨⟨minute, _⟩, -, h⟩ := ok_of_bind h
      obtain ⟨_, -, h⟩ := ok_of_bind h
      obtain ⟨⟨second, _⟩, hsecond, h⟩ := ok_of_bind h
      obtain ⟨⟨nanos, _⟩, hnanos, h⟩ := ok_of_bind h
      obtain ⟨⟨shift, cs⟩, hshift, h⟩ := ok_of_bind h
      dsimp only at h
      split at h
      · cases h
      split at h
      · cases h
      split at h
      · cases h
      next hdate =>
        cases h
        have := fraction_ok hnanos
        have := numberIn_ok hsecond
        have := offset_ok hshift
        exact ⟨by simpa using hdate, by dsimp only; split <;> omega, by dsimp only; split <;> omega⟩
    next => cases h

theorem IsValid.dropFraction (h : t.IsValid) : t.dropFraction.IsValid where
  date := h.date
  nanos := by
    simp only [Instant.dropFraction]
    split <;> decide
  leap hleap := by
    refine h.leap ?_
    simp only [Instant.dropFraction] at hleap
    split at hleap
    · assumption
    · exact absurd hleap (by decide)

end Instant

end ImageForge
