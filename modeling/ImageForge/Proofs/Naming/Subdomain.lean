import ImageForge.Proofs.Text.Trimming

/-! Domain names: labels of lower-case letters, digits and hyphens, with dots between them. -/
namespace ImageForge.Naming

open Text

variable {c : Char} {as bs tail label : List Char} {name : String}

def isAlphanumeric (c : Char) : Bool := ('a' ≤ c && c ≤ 'z') || c.isDigit

/-- A label of a domain name. A hyphen stands at neither end. -/
structure IsLabel (label : List Char) : Prop where
  chars : ∀ c ∈ label, isAlphanumeric c ∨ c = '-'
  first : label.head?.any isAlphanumeric
  last : label.getLast?.any isAlphanumeric

instance (label : List Char) : Decidable (IsLabel label) :=
  decidable_of_iff
    (label.all (fun c => isAlphanumeric c ∨ c = '-') ∧ label.head?.any isAlphanumeric ∧
      label.getLast?.any isAlphanumeric)
    ⟨fun ⟨hc, hf, hl⟩ => ⟨by simpa using hc, hf, hl⟩,
      fun h => ⟨by simpa using h.chars, h.first, h.last⟩⟩

/-- A domain name of any length; none of its labels is empty. -/
def IsSubdomain (name : String) : Prop := ∀ label ∈ pieces '.' name.toList, IsLabel label

instance (name : String) : Decidable (IsSubdomain name) :=
  inferInstanceAs (Decidable (∀ label ∈ pieces '.' name.toList, IsLabel label))

theorem isAlphanumeric_ascii (h : isAlphanumeric c) : c.val ≤ 127 := by
  simp only [isAlphanumeric, Char.isDigit, Bool.or_eq_true, Bool.and_eq_true,
    decide_eq_true_eq] at h
  obtain ⟨-, h⟩ | ⟨-, h⟩ := h
  · exact UInt32.le_trans h (by decide)
  · exact UInt32.le_trans h (by decide)

theorem IsLabel.ne_nil (h : IsLabel label) : label ≠ [] := by
  rintro rfl
  exact absurd h.first (by simp)

theorem IsLabel.exchange (h : IsLabel (as ++ c :: bs)) (hc : ∀ d ∈ tail, isAlphanumeric d ∨ d = '-')
    (hlast : (c :: tail).getLast?.any isAlphanumeric) : IsLabel (as ++ c :: tail) where
  chars d hd := by
    rw [List.mem_append, List.mem_cons] at hd
    obtain hd | rfl | hd := hd
    · exact h.chars d (List.mem_append_left _ hd)
    · exact h.chars d (List.mem_append_right _ List.mem_cons_self)
    · exact hc d hd
  first := by
    have hfirst := h.first
    cases as with
    | nil => exact hfirst
    | cons a as => exact hfirst
  last := by rwa [List.getLast?_append_of_ne_nil _ (List.cons_ne_nil c tail)]

theorem IsSubdomain.chars (h : IsSubdomain name) (hc : c ∈ name.toList) :
    isAlphanumeric c ∨ c = '-' ∨ c = '.' := by
  have hpart : c = '.' ∨ ∃ label ∈ pieces '.' name.toList, c ∈ label := mem_pieces hc
  obtain rfl | ⟨label, hlabel, hc⟩ := hpart
  · exact Or.inr (Or.inr rfl)
  · exact ((h label hlabel).chars c hc).imp_right Or.inl

theorem IsSubdomain.ascii (h : IsSubdomain name) : ∀ c ∈ name.toList, c.val ≤ 127 := by
  intro c hc
  obtain hc | rfl | rfl := h.chars hc
  · exact isAlphanumeric_ascii hc
  · decide
  · decide

theorem IsSubdomain.first (h : IsSubdomain name) :
    ∃ c rest, name.toList = c :: rest ∧ isAlphanumeric c := by
  cases hname : name.toList with
  | nil =>
    have hempty : IsLabel [] := h [] (by simp [hname, pieces])
    exact absurd rfl hempty.ne_nil
  | cons c rest =>
    refine ⟨c, rest, rfl, ?_⟩
    rw [IsSubdomain, hname, pieces] at h
    by_cases hdot : c = '.'
    · exact absurd rfl (h [] (by simp [hdot])).ne_nil
    · rw [if_neg hdot] at h
      cases hpieces : pieces '.' rest with
      | nil => exact absurd hpieces (pieces_ne_nil '.' rest)
      | cons p ps =>
        have hlabel : IsLabel (c :: p) := h _ (by simp [hpieces])
        simpa using hlabel.first

/-- A domain name that is cut behind a letter or digit, and goes on as a label does. -/
theorem IsSubdomain.exchange (h : IsSubdomain name) (hname : name.toList = as ++ c :: bs)
    (hc : isAlphanumeric c) (htail : ∀ d ∈ tail, isAlphanumeric d ∨ d = '-')
    (hlast : (c :: tail).getLast?.any isAlphanumeric) :
    IsSubdomain (String.ofList (as ++ c :: tail)) := by
  have hdots : ∀ d, isAlphanumeric d ∨ d = '-' → d ≠ '.' := by
    rintro d hd rfl
    exact absurd hd (by decide)
  obtain ⟨init, last, hpieces⟩ := exists_pieces_append '.' as
  obtain ⟨p, ps, hrest⟩ := List.exists_cons_of_ne_nil (pieces_ne_nil '.' bs)
  have hbs : pieces '.' (c :: bs) = (c :: p) :: ps := by
    rw [pieces, if_neg (hdots c (Or.inl hc)), hrest]
  have hcut : pieces '.' (c :: tail) = [c :: tail] := by
    rw [pieces_eq_splitOn, List.splitOn_eq_singleton]
    intro hmem
    obtain hdot | hmem := List.mem_cons.mp hmem
    · exact hdots c (Or.inl hc) hdot.symm
    · exact hdots '.' (htail '.' hmem) rfl
  rw [IsSubdomain, hname, hpieces _ _ _ hbs] at h
  rw [IsSubdomain, String.toList_ofList, hpieces _ _ _ hcut]
  intro label hlabel
  obtain hlabel | rfl := by simpa using hlabel
  · exact h label (List.mem_append_left _ hlabel)
  · exact (h (last ++ c :: p) (by simp)).exchange htail hlast

end ImageForge.Naming
