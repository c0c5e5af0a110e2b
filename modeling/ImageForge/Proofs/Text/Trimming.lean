import ImageForge.Text.Blank
import ImageForge.Text.Pieces
import Mathlib.Data.List.DropRight

/-! Texts that trimming and cutting leave as they are. -/
namespace ImageForge.Text

variable {cs : List Char} {s sep : String} {c : Char} {names : List String}

/-- A text is solid when it has a first and a last character and both are not blank. -/
structure Solid (cs : List Char) : Prop where
  first : ∃ c, cs.head? = some c ∧ isBlank c = false
  last : ∃ c, cs.getLast? = some c ∧ isBlank c = false

theorem Solid.ne_nil (h : Solid cs) : cs ≠ [] := by
  obtain ⟨c, hc, -⟩ := h.first
  rintro rfl
  cases hc

theorem Solid.of_all (hne : cs ≠ []) (h : ∀ c ∈ cs, isBlank c = false) : Solid cs where
  first := ⟨cs.head hne, List.head?_eq_some_head hne, h _ (List.head_mem hne)⟩
  last := ⟨cs.getLast hne, List.getLast?_eq_some_getLast hne, h _ (List.getLast_mem hne)⟩

/-- What stands between two solid texts does not matter. -/
theorem Solid.append {as bs : List Char} (ha : Solid as) (hb : Solid bs) (mid : List Char) :
    Solid (as ++ mid ++ bs) := by
  obtain ⟨a, hhead, hfirst⟩ := ha.first
  obtain ⟨b, htail, hlast⟩ := hb.last
  exact ⟨⟨a, by simp [hhead], hfirst⟩, ⟨b, by simp [htail], hlast⟩⟩

theorem Solid.delimited {a b : Char} (ha : isBlank a = false) (hb : isBlank b = false)
    (cs : List Char) : Solid (a :: cs ++ [b]) := by
  have hopen : Solid [a] := ⟨⟨a, rfl, ha⟩, ⟨a, rfl, ha⟩⟩
  have hclose : Solid [b] := ⟨⟨b, rfl, hb⟩, ⟨b, rfl, hb⟩⟩
  exact hopen.append hclose cs

theorem strip_eq_self {p : Char → Bool} (first : ∀ c, cs.head? = some c → p c = false)
    (last : ∀ c, cs.getLast? = some c → p c = false) : strip p cs = cs := by
  have hstart : cs.dropWhile p = cs := by
    cases cs with
    | nil => rfl
    | cons a cs => exact List.dropWhile_cons_of_neg (by simp [first a rfl])
  have hend : cs.rdropWhile p = cs := by
    refine List.rdropWhile_eq_self_iff.mpr fun hne => ?_
    simp [last _ (List.getLast?_eq_some_getLast hne)]
  rw [strip, hstart]
  exact hend

theorem strip_of_solid (h : Solid cs) : strip isBlank cs = cs := by
  obtain ⟨c, hc, hfirst⟩ := h.first
  obtain ⟨d, hd, hlast⟩ := h.last
  refine strip_eq_self ?_ ?_
  · intro a ha
    cases hc.symm.trans ha
    exact hfirst
  · intro a ha
    cases hd.symm.trans ha
    exact hlast

theorem trim_of_solid (h : Solid s.toList) : trim s = s := by
  rw [trim, strip_of_solid h, String.ofList_toList]

theorem isBlankText_of_solid (h : Solid s.toList) : isBlankText s = false := by
  rw [isBlankText, trim_of_solid h, Bool.eq_false_iff]
  intro he
  exact h.ne_nil (by simpa [String.isEmpty_iff] using he)

/-- What trimming leaves: what is cut off at the ends is of the class, and at neither end of what is left is
there more of it. -/
structure Trimmed (p : Char → Bool) (cs core : List Char) : Prop where
  parts : ∃ before after, cs = before ++ core ++ after ∧ (∀ c ∈ before, p c) ∧ ∀ c ∈ after, p c
  first : ∀ c, core.head? = some c → p c = false
  last : ∀ c, core.getLast? = some c → p c = false

theorem Trimmed.isInfix {p : Char → Bool} {core : List Char} (h : Trimmed p cs core) :
    core <:+: cs := by
  obtain ⟨before, after, rfl, -, -⟩ := h.parts
  exact ⟨before, after, rfl⟩

theorem trimmed_strip (p : Char → Bool) (cs : List Char) : Trimmed p cs (strip p cs) := by
  have hparts : strip p cs ++ (cs.dropWhile p).rtakeWhile p = cs.dropWhile p :=
    List.rdropWhile_append_rtakeWhile
  constructor
  · refine ⟨cs.takeWhile p, (cs.dropWhile p).rtakeWhile p, ?_, ?_, ?_⟩
    · rw [List.append_assoc, hparts, List.takeWhile_append_dropWhile]
    · exact fun c hc => List.mem_takeWhile_imp hc
    · exact fun c hc => List.mem_rtakeWhile_imp hc
  · intro c hc
    have hhead : (cs.dropWhile p).head? = some c := by
      rw [← hparts, List.head?_append, hc]
      rfl
    have hfirst := List.head?_dropWhile_not p cs
    rwa [hhead] at hfirst
  · intro c hc
    have hne : strip p cs ≠ [] := by
      intro he
      rw [he] at hc
      cases hc
    rw [List.getLast?_eq_some_getLast hne, Option.some.injEq] at hc
    rw [← hc]
    exact Bool.eq_false_iff.mpr (List.rdropWhile_last_not p (cs.dropWhile p) hne)

theorem solid_strip (h : strip isBlank cs ≠ []) : Solid (strip isBlank cs) where
  first := ⟨_, List.head?_eq_some_head h,
    (trimmed_strip isBlank cs).first _ (List.head?_eq_some_head h)⟩
  last := ⟨_, List.getLast?_eq_some_getLast h,
    (trimmed_strip isBlank cs).last _ (List.getLast?_eq_some_getLast h)⟩

theorem solid_trim (h : isBlankText s = false) : Solid (trim s).toList := by
  have hne : strip isBlank s.toList ≠ [] := by
    intro he
    simp [isBlankText, trim, he] at h
  rw [trim, String.toList_ofList]
  exact solid_strip hne

theorem strip_eq_nil_iff {p : Char → Bool} : strip p cs = [] ↔ ∀ c ∈ cs, p c := by
  have hend : strip p cs = [] ↔ ∀ c ∈ cs.dropWhile p, p c := List.rdropWhile_eq_nil_iff
  rw [hend]
  constructor
  · intro h
    refine List.dropWhile_eq_nil_iff.mp (Decidable.byContradiction fun hne => ?_)
    have hhead := h _ (List.head_mem hne)
    rw [List.head_dropWhile_not p hne] at hhead
    cases hhead
  · intro h c hc
    exact h c ((List.dropWhile_suffix p).subset hc)

theorem strip_append_left {p : Char → Bool} {before : List Char} (h : ∀ c ∈ before, p c) :
    strip p (before ++ cs) = strip p cs := by
  rw [strip, List.dropWhile_append_of_pos h, strip]

theorem strip_append_right {p : Char → Bool} {after : List Char} (h : ∀ c ∈ after, p c) :
    strip p (cs ++ after) = strip p cs := by
  have hend : ∀ cs : List Char, dropEnd p (cs ++ after) = dropEnd p cs := by
    intro cs
    have hreverse : ∀ c ∈ after.reverse, p c := by simpa using h
    rw [dropEnd, List.reverse_append, List.dropWhile_append_of_pos hreverse, dropEnd]
  by_cases hall : ∀ c ∈ cs, p c
  · have hboth : ∀ c ∈ cs ++ after, p c := by
      intro c hc
      rcases List.mem_append.mp hc with hc | hc
      · exact hall c hc
      · exact h c hc
    rw [strip_eq_nil_iff.mpr hall, strip_eq_nil_iff.mpr hboth]
  · have hkept : (cs.dropWhile p).isEmpty = false := by
      rw [List.isEmpty_eq_false_iff, ne_eq, List.dropWhile_eq_nil_iff]
      exact hall
    rw [strip, List.dropWhile_append, hkept]
    exact hend _

/-- There is one way to trim a text. -/
theorem trimmed_iff {p : Char → Bool} {core : List Char} :
    Trimmed p cs core ↔ strip p cs = core := by
  constructor
  · rintro ⟨⟨before, after, rfl, hbefore, hafter⟩, first, last⟩
    rw [strip_append_right hafter, strip_append_left hbefore, strip_eq_self first last]
  · rintro rfl
    exact trimmed_strip p cs

theorem trim_trim (s : String) : trim (trim s) = trim s := by
  cases h : isBlankText s with
  | false => exact trim_of_solid (solid_trim h)
  | true =>
    have hempty : trim s = "" := String.isEmpty_iff.mp h
    rw [hempty]
    rfl

theorem isBlankText_eq_false_iff : isBlankText s = false ↔ ∃ c ∈ s.toList, ¬ isBlank c := by
  have hnil : isBlankText s = true ↔ strip isBlank s.toList = [] := by
    simp [isBlankText, trim]
  rw [← Bool.not_eq_true, hnil, strip_eq_nil_iff]
  simp

theorem pieces_eq_splitOn (c : Char) (cs : List Char) : pieces c cs = cs.splitOn c := by
  induction cs with
  | nil => rfl
  | cons a cs ih =>
    rw [List.splitOn_cons_eq_if_modifyHead, pieces, ih]
    by_cases h : a = c
    · simp [h]
    · cases hs : cs.splitOn c with
      | nil => exact absurd hs (List.splitOn_ne_nil c cs)
      | cons p ps => simp [h]

theorem mem_splitAt {piece : List Char} :
    String.ofList piece ∈ splitAt c s ↔ piece ∈ s.toList.splitOn c := by
  rw [splitAt, pieces_eq_splitOn]
  exact List.mem_map_of_injective fun _ _ h => String.ofList_injective h

theorem exists_pieces_append (sep : Char) (as : List Char) :
    ∃ init last, ∀ bs first rest, pieces sep bs = first :: rest →
      pieces sep (as ++ bs) = init ++ (last ++ first) :: rest := by
  induction as with
  | nil => exact ⟨[], [], fun bs first rest hbs => hbs⟩
  | cons a as ih =>
    obtain ⟨init, last, hpieces⟩ := ih
    by_cases ha : a = sep
    · refine ⟨[] :: init, last, fun bs first rest hbs => ?_⟩
      rw [List.cons_append, pieces, if_pos ha, hpieces bs first rest hbs, List.cons_append]
    · cases init with
      | nil =>
        refine ⟨[], a :: last, fun bs first rest hbs => ?_⟩
        rw [List.cons_append, pieces, if_neg ha, hpieces bs first rest hbs]
        rfl
      | cons p init =>
        refine ⟨(a :: p) :: init, last, fun bs first rest hbs => ?_⟩
        rw [List.cons_append, pieces, if_neg ha, hpieces bs first rest hbs]
        rfl

theorem pieces_append_of_notMem {sep : Char} {as bs piece : List Char} {rest : List (List Char)}
    (h : sep ∉ as) (hbs : pieces sep bs = piece :: rest) :
    pieces sep (as ++ bs) = (as ++ piece) :: rest := by
  induction as with
  | nil => exact hbs
  | cons a as ih =>
    rw [List.mem_cons, not_or] at h
    rw [List.cons_append, pieces, if_neg (Ne.symm h.1), ih h.2]
    rfl

theorem mem_pieces {sep : Char} {as : List Char} (h : c ∈ as) :
    c = sep ∨ ∃ piece ∈ pieces sep as, c ∈ piece := by
  induction as with
  | nil => cases h
  | cons a as ih =>
    rw [pieces]
    by_cases ha : a = sep
    · obtain rfl | h := List.mem_cons.mp h
      · exact Or.inl ha
      · obtain hc | ⟨piece, hpiece, hc⟩ := ih h
        · exact Or.inl hc
        · exact Or.inr ⟨piece, by simp [ha, hpiece], hc⟩
    · rw [if_neg ha]
      cases hpieces : pieces sep as with
      | nil => exact absurd hpieces (pieces_ne_nil sep as)
      | cons p ps =>
        rw [hpieces] at ih
        obtain rfl | h := List.mem_cons.mp h
        · exact Or.inr ⟨c :: p, List.mem_cons_self, List.mem_cons_self⟩
        · obtain hc | ⟨piece, hpiece, hc⟩ := ih h
          · exact Or.inl hc
          · obtain rfl | hpiece := List.mem_cons.mp hpiece
            · exact Or.inr ⟨a :: piece, List.mem_cons_self, List.mem_cons_of_mem a hc⟩
            · exact Or.inr ⟨piece, List.mem_cons_of_mem _ hpiece, hc⟩

theorem splitAt_intercalate (hsep : sep.toList = [c]) (hne : names ≠ [])
    (h : ∀ name ∈ names, c ∉ name.toList) : splitAt c (sep.intercalate names) = names := by
  have hpieces : pieces c (sep.intercalate names).toList = names.map String.toList := by
    rw [String.toList_intercalate, hsep, pieces_eq_splitOn]
    refine List.splitOn_intercalate c ?_ (by simpa using hne)
    simpa using h
  rw [splitAt, hpieces, List.map_map]
  simp [Function.comp_def]

theorem solid_intercalate (hne : names ≠ []) (h : ∀ name ∈ names, Solid name.toList) :
    Solid (sep.intercalate names).toList := by
  rw [String.toList_intercalate]
  induction names with
  | nil => exact absurd rfl hne
  | cons name names ih =>
    have hname : Solid name.toList := h name List.mem_cons_self
    cases names with
    | nil => simpa using hname
    | cons next names =>
      have hrest := ih (List.cons_ne_nil next names) fun n hn => h n (List.mem_cons_of_mem name hn)
      simpa [List.intercalate_cons_cons] using hname.append hrest sep.toList

end ImageForge.Text
