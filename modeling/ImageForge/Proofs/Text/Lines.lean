import ImageForge.Proofs.Text.Trimming

/-! The last line of a text that is not blank. Blanks at the ends of the text do not matter for it. -/
namespace ImageForge.Text

variable {cs : List Char} {c : Char}

/-- The last piece of which something is left after trimming, trimmed. -/
def lastSolid? (ps : List (List Char)) : Option (List Char) :=
  (ps.map (strip isBlank)).reverse.find? (!·.isEmpty)

theorem lastSolid?_append (ps qs : List (List Char)) :
    lastSolid? (ps ++ qs) = (lastSolid? qs).or (lastSolid? ps) := by
  simp [lastSolid?]

theorem lastSolid?_of_solid (h : strip isBlank cs ≠ []) :
    lastSolid? [cs] = some (strip isBlank cs) := by
  simp [lastSolid?, h]

theorem lastSolid?_of_blank (h : strip isBlank cs = []) : lastSolid? [cs] = none := by
  simp [lastSolid?, h]

theorem lastSolid?_lines (cs : List Char) : lastSolid? (lines cs) = lastSolid? (pieces '\n' cs) := by
  have hreturn : ∀ line, strip isBlank (dropReturn line) = strip isBlank line := by
    intro line
    unfold dropReturn
    split
    next rest hrest =>
      have hline : line = rest.reverse ++ ['\r'] := by
        rw [← List.reverse_reverse line, hrest, List.reverse_cons]
      have hblank : ∀ c ∈ ['\r'], isBlank c := List.forall_mem_singleton.mpr rfl
      rw [hline, strip_append_right hblank]
    next => rfl
  unfold lines
  cases hpieces : (pieces '\n' cs).reverse with
  | nil => exact absurd (List.reverse_eq_nil_iff.mp hpieces) (pieces_ne_nil '\n' cs)
  | cons last ended =>
    have hsame : pieces '\n' cs = ended.reverse ++ [last] := by
      rw [← List.reverse_reverse (pieces '\n' cs), hpieces, List.reverse_cons]
    have hended : lastSolid? (ended.map dropReturn).reverse = lastSolid? ended.reverse := by
      simp [lastSolid?, Function.comp_def, hreturn]
    rw [hsame, lastSolid?_append, lastSolid?_append, hended]
    cases last with
    | nil => rfl
    | cons c rest => rfl

theorem lastSolid?_pieces_cons (h : isBlank c) :
    lastSolid? (pieces '\n' (c :: cs)) = lastSolid? (pieces '\n' cs) := by
  rw [pieces]
  by_cases hc : c = '\n'
  · rw [if_pos hc, ← List.singleton_append, lastSolid?_append, lastSolid?_of_blank (by rfl),
      Option.or_none]
  · rw [if_neg hc]
    cases hpieces : pieces '\n' cs with
    | nil => exact absurd hpieces (pieces_ne_nil '\n' cs)
    | cons first rest =>
      have hblank : ∀ d ∈ [c], isBlank d := by simpa using h
      have hfirst : strip isBlank (c :: first) = strip isBlank first := strip_append_left hblank
      simp only [lastSolid?, List.map_cons, hfirst]

theorem exists_pieces_concat (sep : Char) (cs : List Char) : ∃ init last,
    pieces sep cs = init ++ [last] ∧ ∀ c, pieces sep (cs ++ [c]) =
      if c = sep then init ++ [last] ++ [[]] else init ++ [last ++ [c]] := by
  obtain ⟨init, last, hpieces⟩ := exists_pieces_append sep cs
  refine ⟨init, last, by simpa using hpieces [] [] [] rfl, fun c => ?_⟩
  by_cases hc : c = sep
  · rw [if_pos hc]
    simpa using hpieces [c] [] [[]] (by simp [pieces, hc])
  · rw [if_neg hc]
    exact hpieces [c] [c] [] (by simp [pieces, hc])

theorem lastSolid?_pieces_concat (h : isBlank c) :
    lastSolid? (pieces '\n' (cs ++ [c])) = lastSolid? (pieces '\n' cs) := by
  obtain ⟨init, last, hcs, hmore⟩ := exists_pieces_concat '\n' cs
  rw [hcs, hmore]
  by_cases hc : c = '\n'
  · rw [if_pos hc, lastSolid?_append _ [[]], lastSolid?_of_blank (by rfl), Option.none_or]
  · have hlast : strip isBlank (last ++ [c]) = strip isBlank last :=
      strip_append_right (by simpa using h)
    simp only [if_neg hc, lastSolid?, List.map_append, List.map_cons, hlast]

theorem lastSolid?_strip (cs : List Char) :
    lastSolid? (pieces '\n' (strip isBlank cs)) = lastSolid? (pieces '\n' cs) := by
  have hbefore : ∀ before, (∀ c ∈ before, isBlank c) → ∀ cs,
      lastSolid? (pieces '\n' (before ++ cs)) = lastSolid? (pieces '\n' cs) := by
    intro before hblank cs
    induction before with
    | nil => rfl
    | cons c before ih =>
      obtain ⟨hc, hblank⟩ := List.forall_mem_cons.mp hblank
      rw [List.cons_append, lastSolid?_pieces_cons hc, ih hblank]
  have hafter : ∀ after, (∀ c ∈ after, isBlank c) → ∀ cs,
      lastSolid? (pieces '\n' (cs ++ after)) = lastSolid? (pieces '\n' cs) := by
    intro after hblank
    induction after with
    | nil => simp
    | cons c after ih =>
      intro cs
      obtain ⟨hc, hblank⟩ := List.forall_mem_cons.mp hblank
      rw [List.append_cons, ih hblank, lastSolid?_pieces_concat hc]
  obtain ⟨before, after, hcs, hblank, hblank'⟩ := (trimmed_strip isBlank cs).parts
  calc lastSolid? (pieces '\n' (strip isBlank cs))
      = lastSolid? (pieces '\n' (before ++ strip isBlank cs)) := (hbefore _ hblank _).symm
    _ = lastSolid? (pieces '\n' (before ++ strip isBlank cs ++ after)) := (hafter _ hblank' _).symm
    _ = lastSolid? (pieces '\n' cs) := by rw [← hcs]

/-- The text behind the last newline; all of it where there is none. -/
def behindNewline (cs : List Char) : List Char := cs.rtakeWhile (· ≠ '\n')

theorem newline_not_mem_behindNewline (cs : List Char) : '\n' ∉ behindNewline cs := by
  intro h
  simpa using List.mem_rtakeWhile_imp h

theorem behindNewline_concat (cs : List Char) (c : Char) :
    behindNewline (cs ++ [c]) = if c = '\n' then [] else behindNewline cs ++ [c] := by
  by_cases hc : c = '\n' <;> simp [behindNewline, hc]

theorem getLast?_pieces (cs : List Char) :
    (pieces '\n' cs).getLast? = some (behindNewline cs) := by
  induction cs using List.reverseRecOn with
  | nil => rfl
  | append_singleton cs c ih =>
    obtain ⟨init, last, hcs, hmore⟩ := exists_pieces_concat '\n' cs
    have hlast : last = behindNewline cs := by simpa [hcs] using ih
    rw [hmore, behindNewline_concat, hlast]
    by_cases hc : c = '\n' <;> simp [hc]

/-- A text that does not end with a blank has none at the end of its last line. -/
theorem strip_behindNewline_ne_nil (h : Solid cs) : strip isBlank (behindNewline cs) ≠ [] := by
  obtain ⟨c, hc, hsolid⟩ := h.last
  obtain ⟨init, rfl⟩ := List.getLast?_eq_some_iff.mp hc
  have hne : c ≠ '\n' := by
    rintro rfl
    exact absurd hsolid (by decide)
  rw [behindNewline_concat, if_neg hne, ne_eq, strip_eq_nil_iff]
  intro hall
  have hblank : isBlank c := hall c (by simp)
  simp [hsolid] at hblank

/-- The last line that is not blank stands behind the last newline of the trimmed text. -/
theorem lastSolid?_pieces (h : strip isBlank cs ≠ []) :
    lastSolid? (pieces '\n' cs) = some (strip isBlank (behindNewline (strip isBlank cs))) := by
  obtain ⟨front, hfront⟩ := List.getLast?_eq_some_iff.mp (getLast?_pieces (strip isBlank cs))
  have hlast := strip_behindNewline_ne_nil (solid_strip h)
  rw [← lastSolid?_strip, hfront, lastSolid?_append, lastSolid?_of_solid hlast, Option.some_or]

theorem lastSolid?_pieces_of_blank (h : strip isBlank cs = []) :
    lastSolid? (pieces '\n' cs) = none := by
  rw [← lastSolid?_strip, h]
  rfl

end ImageForge.Text
