import Mathlib.Order.Minimal

/-! Steps that may fail, one after another. -/
namespace ImageForge

variable {α β ε ρ : Type}

theorem ok_of_bind {x : Except ε α} {next : α → Except ε β} {b : β}
    (h : (x >>= next) = .ok b) : ∃ a, x = .ok a ∧ next a = .ok b := by
  cases x with
  | error e => cases h
  | ok a => exact ⟨a, rfl, h⟩

theorem ok_of_map {x : Except ε α} {f : α → β} {b : β} (h : x.map f = .ok b) :
    ∃ a, x = .ok a ∧ f a = b := by
  cases x with
  | error e => cases h
  | ok a => exact ⟨a, rfl, Except.ok.inj h⟩

theorem mapM_map_ok {write : α → β} {read : β → Except ε α} {items : List α}
    (h : ∀ a ∈ items, read (write a) = .ok a) : (items.map write).mapM read = .ok items := by
  induction items with
  | nil => rfl
  | cons a items ih =>
    obtain ⟨ha, hitems⟩ := List.forall_mem_cons.mp h
    simp [List.mapM_cons, ha, ih hitems, bind, Except.bind, pure, Except.pure]

theorem exists_of_mapM_ok {read : α → Except ε β} {items : List α} {values : List β} {b : β}
    (h : items.mapM read = .ok values) (hb : b ∈ values) : ∃ a ∈ items, read a = .ok b := by
  induction items generalizing values with
  | nil =>
    cases h
    cases hb
  | cons a items ih =>
    rw [List.mapM_cons] at h
    obtain ⟨first, hfirst, h⟩ := ok_of_bind h
    obtain ⟨rest, hrest, h⟩ := ok_of_bind h
    cases h
    obtain rfl | hb := List.mem_cons.mp hb
    · exact ⟨a, List.mem_cons_self, hfirst⟩
    · obtain ⟨a', ha', hread⟩ := ih hrest hb
      exact ⟨a', List.mem_cons_of_mem a ha', hread⟩

/-- Items that are read in turn fail with the first that cannot be read. -/
theorem mapM_error {read : α → Except ε β} {before after : List α} {a : α} {e : ε}
    (hbefore : ∀ a ∈ before, ∃ b, read a = .ok b) (ha : read a = .error e) :
    (before ++ a :: after).mapM read = .error e := by
  induction before with
  | nil => simp [List.mapM_cons, ha, bind, Except.bind]
  | cons first before ih =>
    obtain ⟨⟨b, hb⟩, hbefore⟩ := List.forall_mem_cons.mp hbefore
    simp [List.mapM_cons, hb, ih hbefore, bind, Except.bind]

/-- A requirement that is not met, while all of a lower rank are. -/
def FirstUnmet (rank : ρ → Nat) (met : ρ → Prop) (r : ρ) : Prop :=
  ¬ met r ∧ ∀ before, rank before < rank r → met before

variable {rank : ρ → Nat} {met : ρ → Prop}

theorem exists_firstUnmet (h : ¬ ∀ r, met r) : ∃ r, FirstUnmet rank met r := by
  obtain ⟨r, hr, hleast⟩ := exists_minimalFor_of_wellFoundedLT (fun r => ¬ met r) rank
    (not_forall.mp h)
  refine ⟨r, hr, fun before hbefore => Classical.not_not.mp fun hnot => ?_⟩
  exact absurd (hleast hnot hbefore.le) (not_le.mpr hbefore)

/-- What succeeds where all requirements are met, and tells the first one otherwise, succeeds nowhere else
and tells nothing else. -/
theorem met_iff_and_error_iff {x : Except ε α} {error : ρ → ε} (hmet : (∀ r, met r) → ∃ a, x = .ok a)
    (hunmet : ∀ r, FirstUnmet rank met r → x = .error (error r)) :
    ((∃ a, x = .ok a) ↔ ∀ r, met r) ∧
      ∀ e, x = .error e ↔ ∃ r, FirstUnmet rank met r ∧ e = error r := by
  constructor
  · refine ⟨fun ⟨a, ha⟩ => Classical.byContradiction fun hnot => ?_, hmet⟩
    obtain ⟨r, hr⟩ : ∃ r, FirstUnmet rank met r := exists_firstUnmet hnot
    cases ha.symm.trans (hunmet r hr)
  · intro e
    constructor
    · intro he
      have hnot : ¬ ∀ r, met r := by
        intro h
        obtain ⟨a, ha⟩ := hmet h
        cases he.symm.trans ha
      obtain ⟨r, hr⟩ : ∃ r, FirstUnmet rank met r := exists_firstUnmet hnot
      exact ⟨r, hr, Except.error.inj (he.symm.trans (hunmet r hr))⟩
    · rintro ⟨r, hr, rfl⟩
      exact hunmet r hr

end ImageForge
