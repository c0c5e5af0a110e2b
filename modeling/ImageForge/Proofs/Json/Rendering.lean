import ImageForge.Json.Writer
import ImageForge.Proofs.Text.Trimming

/-! The compact text of a document has no blanks at its ends. -/
namespace ImageForge

open Text

theorem isBlank_of_isDigit {c : Char} (h : c.isDigit) : isBlank c = false := by
  simp only [Char.isDigit, Bool.and_eq_true, decide_eq_true_eq] at h
  have hlow : 48 ≤ c.toNat := h.1
  have hhigh : c.toNat ≤ 57 := h.2
  simp only [isBlank, Bool.or_eq_false_iff, Bool.and_eq_false_iff, decide_eq_false_iff_not,
    beq_eq_false_iff_ne, ne_eq]
  omega

theorem isBlank_toDigits {n : Nat} {c : Char} (h : c ∈ Nat.toDigits 10 n) : isBlank c = false :=
  isBlank_of_isDigit (Nat.isDigit_of_mem_toDigits (by decide) (by decide) h)

namespace Number.Binary64

variable {b : Binary64} {d : Digits} {c : Char}

theorem isBlank_shortest (h : c ∈ b.shortest.digits) : isBlank c = false := by
  unfold shortest at h
  split at h
  · cases List.mem_singleton.mp h
    rfl
  · have hmem := (List.dropWhile_suffix (fun c => decide (c = '0'))).mem (List.mem_reverse.mp h)
    exact isBlank_toDigits (List.mem_reverse.mp hmem)

theorem isBlank_positional (hd : ∀ c ∈ d.digits, isBlank c = false) (h : c ∈ positional d) :
    isBlank c = false := by
  simp only [positional] at h
  split at h
  · simp only [List.mem_append, List.mem_cons, List.not_mem_nil, or_false,
      List.mem_replicate] at h
    rcases h with ((rfl | rfl) | ⟨-, rfl⟩) | h
    · rfl
    · rfl
    · rfl
    · exact hd c h
  · split at h
    · simp only [List.mem_append, List.mem_cons, List.not_mem_nil, or_false,
        List.mem_replicate] at h
      rcases h with (h | ⟨-, rfl⟩) | rfl | rfl
      · exact hd c h
      · rfl
      · rfl
      · rfl
    · simp only [List.mem_append, List.mem_cons, List.not_mem_nil, or_false] at h
      rcases h with (h | rfl) | h
      · exact hd c (List.mem_of_mem_take h)
      · rfl
      · exact hd c (List.mem_of_mem_drop h)

theorem isBlank_scientific (hd : ∀ c ∈ d.digits, isBlank c = false) (h : c ∈ scientific d) :
    isBlank c = false := by
  simp only [scientific, List.mem_append, List.mem_cons, List.not_mem_nil, or_false] at h
  rcases h with (h | rfl | rfl) | h
  · split at h
    · cases h
    next heq => exact hd c (heq ▸ h)
    next heq =>
      rw [List.mem_cons, List.mem_cons] at h
      rcases h with rfl | rfl | h
      · exact hd _ (heq ▸ List.mem_cons_self)
      · rfl
      · exact hd c (heq ▸ List.mem_cons_of_mem _ h)
  · rfl
  · split <;> rfl
  · exact isBlank_toDigits h

theorem isBlank_documentChars (h : c ∈ b.documentChars) : isBlank c = false := by
  simp only [documentChars, List.mem_append] at h
  rcases h with h | h
  · simp only [signChars] at h
    split at h
    · cases List.mem_singleton.mp h
      rfl
    · cases h
  · split at h
    · exact isBlank_positional (fun _ hd => isBlank_shortest hd) h
    · exact isBlank_scientific (fun _ hd => isBlank_shortest hd) h

theorem documentChars_ne_nil (b : Binary64) : b.documentChars ≠ [] := by
  simp only [documentChars]
  split
  · simp only [positional]
    split
    · simp
    · split <;> simp
  · simp [scientific]

end Number.Binary64

namespace Json

theorem solid_intChars (n : Int) : Solid (intChars n) := by
  refine .of_all (by simp [intChars, Nat.toDigits_ne_nil]) fun c hc => ?_
  rcases List.mem_append.mp hc with hc | hc
  · split at hc
    · cases List.mem_singleton.mp hc
      rfl
    · cases hc
  · exact isBlank_toDigits hc

theorem solid_chars (v : Json) : Solid v.chars := by
  cases v with
  | null => exact ⟨⟨_, rfl, rfl⟩, ⟨_, rfl, rfl⟩⟩
  | bool b => cases b <;> exact ⟨⟨_, rfl, rfl⟩, ⟨_, rfl, rfl⟩⟩
  | num n =>
    cases n with
    | int n => exact solid_intChars n
    | real b =>
      exact .of_all b.documentChars_ne_nil fun _ hc => Number.Binary64.isBlank_documentChars hc
  | str s => exact .delimited rfl rfl _
  | arr items => exact .delimited rfl rfl _
  | obj fields => exact .delimited rfl rfl _

theorem solid_render (v : Json) : Solid v.render.toList := by
  rw [render, String.toList_ofList]
  exact solid_chars v

end Json

end ImageForge
