import ImageForge.Cluster.Table

/-! What is found in a table, and what it lists, after a change. -/
namespace ImageForge.Cluster.Table

variable {α : Type} {t : Table α} {k k' : Key} {a : α} {p : α → Bool}

theorem mem_of_get? (h : t.get? k = some a) : (k, a) ∈ t := by
  obtain ⟨e, he, rfl⟩ := Option.map_eq_some_iff.mp h
  have hk : e.1 = k := by simpa using List.find?_some he
  subst hk
  exact List.mem_of_find?_eq_some he

theorem get?_eq_none_iff : t.get? k = none ↔ ∀ e ∈ t, e.1 ≠ k := by
  simp [get?, List.find?_eq_none]

theorem get?_put (t : Table α) (k k' : Key) (a : α) :
    (t.put k a).get? k' = if k' = k then some a else t.get? k' := by
  by_cases h : k' = k
  · subst h
    simp
  · rw [get?_put_of_ne h, if_neg h]

theorem get?_erase_of_ne (h : k' ≠ k) (t : Table α) : (t.erase k).get? k' = t.get? k' := by
  induction t with
  | nil => rfl
  | cons e t ih =>
    by_cases he : e.1 = k
    · have hk' : ¬ e.1 = k' := fun hc => h (hc.symm.trans he)
      simpa [erase, get?, List.filter_cons, List.find?_cons, he, hk', Ne.symm h] using ih
    · by_cases hk' : e.1 = k'
      · simp [erase, get?, hk', h]
      · simpa [erase, get?, List.filter_cons, List.find?_cons, he, hk'] using ih

theorem get?_erase (t : Table α) (k k' : Key) :
    (t.erase k).get? k' = if k' = k then none else t.get? k' := by
  by_cases h : k' = k
  · subst h
    simp
  · rw [get?_erase_of_ne h, if_neg h]

theorem mem_put {e : Key × α} (h : e ∈ t.put k a) : e = (k, a) ∨ e ∈ t := by
  induction t with
  | nil => exact Or.inl (by simpa [put] using h)
  | cons f t ih =>
    by_cases hk : f.1 = k
    · rw [put, if_pos hk] at h
      rcases List.mem_cons.mp h with h | h
      · exact Or.inl h
      · exact Or.inr (List.mem_cons_of_mem f h)
    · rw [put, if_neg hk] at h
      rcases List.mem_cons.mp h with h | h
      · exact Or.inr (h ▸ List.mem_cons_self)
      · rcases ih h with h | h
        · exact Or.inl h
        · exact Or.inr (List.mem_cons_of_mem f h)

theorem mem_erase {e : Key × α} : e ∈ t.erase k ↔ e ∈ t ∧ e.1 ≠ k := by
  simp [erase]

theorem mem_keep {e : Key × α} : e ∈ t.keep p ↔ e ∈ t ∧ p e.2 := by
  simp [keep]

def Distinct (t : Table α) : Prop := (t.map (·.1)).Nodup

theorem Distinct.put (h : t.Distinct) : (t.put k a).Distinct := by
  induction t with
  | nil => simp [Table.put, Distinct]
  | cons e t ih =>
    obtain ⟨hnew, hrest⟩ := List.nodup_cons.mp h
    by_cases hk : e.1 = k
    · rw [Table.put, if_pos hk]
      exact List.nodup_cons.mpr ⟨hk ▸ hnew, hrest⟩
    · rw [Table.put, if_neg hk]
      refine List.nodup_cons.mpr ⟨fun hmem => ?_, ih hrest⟩
      obtain ⟨f, hf, hfk⟩ := List.mem_map.mp hmem
      obtain rfl | hf := mem_put hf
      · exact hk hfk.symm
      · exact hnew (List.mem_map.mpr ⟨f, hf, hfk⟩)

theorem Distinct.sublist {u : Table α} (h : t.Distinct) (hu : u.Sublist t) : u.Distinct :=
  List.Nodup.sublist (hu.map _) h

theorem Distinct.erase (h : t.Distinct) : (t.erase k).Distinct := h.sublist List.filter_sublist

theorem Distinct.keep (h : t.Distinct) : (t.keep p).Distinct := h.sublist List.filter_sublist

theorem Distinct.get?_of_mem (h : t.Distinct) (hm : (k, a) ∈ t) : t.get? k = some a := by
  induction t with
  | nil => cases hm
  | cons e t ih =>
    obtain ⟨hnew, hrest⟩ := List.nodup_cons.mp h
    rcases List.mem_cons.mp hm with rfl | hm
    · simp [get?]
    · have hne : ¬ e.1 = k := fun he => hnew (List.mem_map.mpr ⟨(k, a), hm, he.symm⟩)
      simpa [get?, hne] using ih hrest hm

theorem Distinct.get?_keep (h : t.Distinct) (p : α → Bool) (k : Key) :
    (t.keep p).get? k = (t.get? k).filter p := by
  cases hk : (t.keep p).get? k with
  | some a =>
    obtain ⟨hm, hp⟩ := mem_keep.mp (mem_of_get? hk)
    rw [h.get?_of_mem hm, Option.filter_some_pos hp]
  | none =>
    cases ha : t.get? k with
    | none => rfl
    | some a =>
      have hp : p a = false := Bool.eq_false_iff.mpr fun hp =>
        get?_eq_none_iff.mp hk _ (mem_keep.mpr ⟨mem_of_get? ha, hp⟩) rfl
      rw [Option.filter_some_neg hp]

end ImageForge.Cluster.Table
