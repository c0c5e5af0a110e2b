import ImageForge.Controller.Backoff
import Mathlib.Data.Nat.Fib.Basic

/-! The delays of a backoff are the multiples of the least delay by the Fibonacci numbers, cut at the
bound. -/
namespace ImageForge.Controller.Backoff

variable {b : Backoff} {least most : UInt64}

def after (b : Backoff) (n : Nat) : Backoff := (fun b => b.next.2)^[n] b

@[simp]
theorem after_zero (b : Backoff) : b.after 0 = b := rfl

theorem after_succ (b : Backoff) (n : Nat) : b.after (n + 1) = (b.after n).next.2 :=
  Function.iterate_succ_apply' _ n b

theorem delays_eq (b : Backoff) (n : Nat) :
    b.delays n = (List.range n).map fun i => (b.after i).next.1 := by
  induction n generalizing b with
  | zero => rfl
  | succ n ih =>
    rw [delays, ih, List.range_succ_eq_map, List.map_cons, List.map_map]
    rfl

theorem toNat_min (a b : UInt64) : (min a b).toNat = min a.toNat b.toNat := by
  have hdef : min a b = if a ≤ b then a else b := rfl
  by_cases h : a ≤ b
  · have hle : a.toNat ≤ b.toNat := h
    rw [hdef, if_pos h, Nat.min_eq_left hle]
  · have hle : b.toNat ≤ a.toNat := Nat.le_of_not_le h
    rw [hdef, if_neg h, Nat.min_eq_right hle]

/-- A sum of two cut numbers, cut again, is the cut sum. -/
theorem min_add_min (a b m : Nat) : min (min a m + min b m) m = min (a + b) m := by omega

/-- A backoff after `n` delays: it holds the Fibonacci multiples of the least delay, cut at the bound. -/
structure Holds (least most : UInt64) (n : Nat) (b : Backoff) : Prop where
  previous : b.previous.toNat = min (Nat.fib n * least.toNat) most.toNat
  current : b.current.toNat = min (Nat.fib (n + 1) * least.toNat) most.toNat
  bound : b.bound = most

theorem holds_new (h : least ≤ most) : Holds least most 0 (new least most) where
  previous := by simp [new]
  current := by
    have hle : least.toNat ≤ most.toNat := h
    simp [new, hle]
  bound := rfl

theorem Holds.sum_lt {n : Nat} (h : Holds least most n b) (room : 2 * most.toNat < 2 ^ 64) :
    b.previous.toNat + b.current.toNat < 2 ^ 64 := by
  have hprevious := h.previous
  have hcurrent := h.current
  omega

theorem Holds.next {n : Nat} (h : Holds least most n b) (room : 2 * most.toNat < 2 ^ 64) :
    Holds least most (n + 1) b.next.2 where
  previous := h.current
  current := by
    have hsum : (b.previous + b.current).toNat = b.previous.toNat + b.current.toNat := by
      rw [UInt64.toNat_add]
      exact Nat.mod_eq_of_lt (h.sum_lt room)
    calc b.next.2.current.toNat
        = min (b.previous.toNat + b.current.toNat) most.toNat := by
          rw [Backoff.next, toNat_min, hsum, h.bound]
      _ = min (Nat.fib n * least.toNat + Nat.fib (n + 1) * least.toNat) most.toNat := by
          rw [h.previous, h.current, min_add_min]
      _ = min (Nat.fib (n + 1 + 1) * least.toNat) most.toNat := by
          rw [Nat.fib_add_two, Nat.add_mul]
  bound := h.bound

theorem holds_after (hle : least ≤ most) (room : 2 * most.toNat < 2 ^ 64) (n : Nat) :
    Holds least most n ((new least most).after n) := by
  induction n with
  | zero => exact holds_new hle
  | succ n ih =>
    rw [after_succ]
    exact ih.next room

/-- The delays of a backoff are the Fibonacci multiples of the least delay up to the bound. So they never
become shorter and never exceed the bound, and no sum that is formed for them exceeds a word. -/
theorem delay_eq_fib_multiple (hle : least ≤ most) (room : 2 * most.toNat < 2 ^ 64) :
    (∀ n, ((new least most).after n).next.1.toNat = min (Nat.fib (n + 1) * least.toNat) most.toNat) ∧
      (∀ n, (new least most).delays n = (List.range n).map fun i => ((new least most).after i).next.1) ∧
      (∀ m n, m ≤ n → ((new least most).after m).next.1 ≤ ((new least most).after n).next.1) ∧
      (∀ n, ((new least most).after n).next.1 ≤ most) ∧
      ∀ n, ((new least most).after n).previous.toNat + ((new least most).after n).current.toNat <
        2 ^ 64 := by
  have hdelay : ∀ n, ((new least most).after n).next.1.toNat =
      min (Nat.fib (n + 1) * least.toNat) most.toNat := fun n => (holds_after hle room n).current
  refine ⟨hdelay, delays_eq _, ?_, ?_, fun n => (holds_after hle room n).sum_lt room⟩
  · intro m n hmn
    have hfib : Nat.fib (m + 1) ≤ Nat.fib (n + 1) := Nat.fib_mono (Nat.succ_le_succ hmn)
    rw [UInt64.le_iff_toNat_le, hdelay, hdelay]
    exact min_le_min_right _ (Nat.mul_le_mul_right _ hfib)
  · intro n
    rw [UInt64.le_iff_toNat_le, hdelay]
    exact min_le_right _ _

/-- The greatest bound that leaves room for its double: the third delay is cut, and the sums of the cut
delays still fit. -/
theorem widest_delays_fit :
    (4611686018427387904 : UInt64) ≤ 9223372036854775807 ∧
      2 * (9223372036854775807 : UInt64).toNat < 2 ^ 64 ∧
      ∀ n, ((new 4611686018427387904 9223372036854775807).after n).previous.toNat +
        ((new 4611686018427387904 9223372036854775807).after n).current.toNat < 2 ^ 64 :=
  ⟨by decide, by decide, (delay_eq_fib_multiple (by decide) (by decide)).2.2.2.2⟩

/-- A delay that would be just above the bound is the bound, and so are all that follow. -/
example : (new 5 300).delays 12 = [5, 5, 10, 15, 25, 40, 65, 105, 170, 275, 300, 300] := by decide

end ImageForge.Controller.Backoff
