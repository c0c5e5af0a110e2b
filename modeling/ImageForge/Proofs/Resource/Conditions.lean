import ImageForge.Resource.Condition
import Mathlib.Data.List.Nodup

/-! What observations do to a list of conditions. Records stay where they are. -/
namespace ImageForge.Conditions

variable {type : ConditionType} {status : ConditionStatus} {reason message : String} {now : Instant}
  {cs old mid : List Condition} {ts all : List ConditionType} {c : Condition}

/-- The types that have a record, in the order of the records. -/
def types (cs : List Condition) : List ConditionType := cs.map (·.type)

@[simp]
theorem types_cons (c : Condition) (cs : List Condition) : types (c :: cs) = c.type :: types cs := rfl

@[simp]
theorem types_append (cs cs' : List Condition) : types (cs ++ cs') = types cs ++ types cs' :=
  List.map_append

theorem find?_eq_none_iff : find? cs type = none ↔ type ∉ types cs := by
  simp [find?, types]

theorem types_observe (type : ConditionType) (status : ConditionStatus) (reason message : String)
    (now : Instant) (cs : List Condition) :
    types (observe type status reason message now cs) =
      if type ∈ types cs then types cs else types cs ++ [type] := by
  induction cs with
  | nil => rfl
  | cons c cs ih =>
    by_cases hc : c.type = type
    · simp [observe, hc, Condition.observe]
    · have hne : ¬ type = c.type := fun h => hc h.symm
      rw [observe, if_neg hc, types_cons, types_cons, ih]
      by_cases hmem : type ∈ types cs <;> simp [hmem, hne]

theorem find?_observe_of_ne {t : ConditionType} (h : t ≠ type) :
    find? (observe type status reason message now cs) t = find? cs t := by
  have hne : ¬ type = t := fun e => h e.symm
  induction cs with
  | nil => simp [observe, find?, hne]
  | cons c cs ih =>
    by_cases hc : c.type = type
    · simp [observe, find?, hc, hne, Condition.observe]
    · by_cases ht : c.type = t
      · simp [observe, find?, ht, h]
      · simpa [observe, find?, hc, ht] using ih

theorem find?_observe_of_some (h : find? cs type = some c) :
    find? (observe type status reason message now cs) type =
      some (c.observe status reason message now) := by
  induction cs with
  | nil => cases h
  | cons d cs ih =>
    by_cases hd : d.type = type
    · simp only [find?, hd, decide_true, List.find?_cons_of_pos, Option.some.injEq] at h
      subst h
      simp [observe, find?, hd, Condition.observe]
    · have hrest : find? cs type = some c := by simpa [find?, hd] using h
      simpa [observe, find?, hd] using ih hrest

/-- The first record of a type tells the last observation of it. -/
theorem find?_observe (type : ConditionType) (status : ConditionStatus) (reason message : String)
    (now : Instant) (cs : List Condition) :
    ∃ time, find? (observe type status reason message now cs) type =
      some ⟨type, status, reason, message, time⟩ := by
  induction cs with
  | nil => exact ⟨now, by simp [observe, find?]⟩
  | cons c cs ih =>
    by_cases hc : c.type = type
    · refine ⟨(c.observe status reason message now).lastTransitionTime, ?_⟩
      simp [observe, find?, hc, Condition.observe]
    · obtain ⟨time, htime⟩ := ih
      exact ⟨time, by simpa [observe, find?, hc] using htime⟩

theorem types_prefix_observe : types cs <+: types (observe type status reason message now cs) := by
  rw [types_observe]
  split
  · exact List.prefix_rfl
  · exact List.prefix_append _ _

def ofType (cs : List Condition) (type : ConditionType) : List Condition := cs.filter (·.type = type)

theorem head?_ofType (cs : List Condition) (type : ConditionType) :
    (ofType cs type).head? = find? cs type := List.head?_filter

theorem ofType_eq_nil_iff : ofType cs type = [] ↔ find? cs type = none := by
  rw [← head?_ofType, List.head?_eq_none_iff]

theorem ofType_observe_of_ne {t : ConditionType} (h : t ≠ type) :
    ofType (observe type status reason message now cs) t = ofType cs t := by
  have hne : ¬ type = t := fun e => h e.symm
  induction cs with
  | nil => simp [observe, ofType, hne]
  | cons c cs ih =>
    by_cases hc : c.type = type
    · simp [observe, ofType, hc, hne, Condition.observe]
    · rw [observe, if_neg hc]
      simp only [ofType, List.filter_cons] at ih ⊢
      rw [ih]

/-- An observation leaves the later records of its own type as they are, too. -/
theorem tail_ofType_observe (t : ConditionType) :
    (ofType (observe type status reason message now cs) t).tail = (ofType cs t).tail := by
  by_cases ht : t = type
  · subst ht
    induction cs with
    | nil => simp [observe, ofType]
    | cons c cs ih =>
      by_cases hc : c.type = t
      · simp [observe, ofType, hc, Condition.observe]
      · simpa [observe, ofType, hc] using ih
  · rw [ofType_observe_of_ne ht]

/-- Every type that has a record still has one, and the time of its first record moves only with the
value. -/
def Steady (old new : List Condition) : Prop :=
  ∀ t c, find? old t = some c → ∃ c', find? new t = some c' ∧
    (c'.status = c.status → c'.lastTransitionTime = c.lastTransitionTime)

/-- A list of conditions after one observation at most of each of some types. -/
structure Touched (ts : List ConditionType) (old new : List Condition) : Prop where
  order : types old <+: types new
  nodup : (types old).Nodup → (types new).Nodup
  others : ∀ t c, t ∉ ts → find? old t = some c → find? new t = some c
  steady : Steady old new

namespace Touched

theorem refl (cs : List Condition) : Touched [] cs cs where
  order := List.prefix_rfl
  nodup := id
  others _ _ _ h := h
  steady _ c h := ⟨c, h, fun _ => rfl⟩

theorem observe (h : Touched ts old mid) (ht : type ∉ ts) :
    Touched (type :: ts) old (observe type status reason message now mid) where
  order := by
    rw [types_observe]
    split
    · exact h.order
    · exact h.order.trans (List.prefix_append _ _)
  nodup hold := by
    have hmid := h.nodup hold
    rw [types_observe]
    split
    · exact hmid
    next hnew => simpa using hmid.concat hnew
  others t c hts hc := by
    obtain ⟨hne, hothers⟩ := List.ne_and_not_mem_of_not_mem_cons hts
    rw [find?_observe_of_ne hne]
    exact h.others t c hothers hc
  steady t c hc := by
    by_cases heq : t = type
    · subst heq
      refine ⟨_, find?_observe_of_some (h.others t c ht hc), ?_⟩
      intro hstatus
      exact if_pos hstatus.symm
    · rw [find?_observe_of_ne heq]
      exact h.steady t c hc

theorem initializeOne (h : Touched [] old mid) : Touched [] old (initializeOne now mid type) := by
  unfold Conditions.initializeOne
  split
  · exact h
  next hnone =>
    have hnew : type ∉ types mid := find?_eq_none_iff.mp hnone
    have htypes : types (mid ++ [.initial type now]) = types mid ++ [type] := types_append mid _
    have hkept : ∀ t c, find? mid t = some c →
        find? (mid ++ [.initial type now]) t = some c := by
      intro t c hc
      rw [find?, List.find?_append]
      exact congrArg (Option.or · _) hc
    refine ⟨?_, ?_, ?_, ?_⟩
    · rw [htypes]
      exact h.order.trans (List.prefix_append _ _)
    · intro hold
      rw [htypes]
      simpa using (h.nodup hold).concat hnew
    · intro t c hts hc
      exact hkept t c (h.others t c hts hc)
    · intro t c hc
      exact ⟨c, hkept t c (h.others t c List.not_mem_nil hc), fun _ => rfl⟩

theorem initializeAll (h : Touched [] old mid) (all : List ConditionType) :
    Touched [] old (initializeAll mid all now) := by
  induction all generalizing mid with
  | nil => exact h
  | cons type all ih => exact ih h.initializeOne

end Touched

theorem mem_types_initializeOne (now : Instant) (cs : List Condition) (type : ConditionType) :
    type ∈ types (initializeOne now cs type) := by
  unfold initializeOne
  split
  next c hc => exact Decidable.byContradiction fun h => by simp [find?_eq_none_iff.mpr h] at hc
  next => simp [types, Condition.initial]

theorem mem_types_initializeAll (h : type ∈ all) : type ∈ types (initializeAll cs all now) := by
  induction all generalizing cs with
  | nil => cases h
  | cons t all ih =>
    rcases List.mem_cons.mp h with rfl | h
    · exact ((Touched.refl _).initializeAll all).order.mem (mem_types_initializeOne now cs type)
    · exact ih h

theorem initializeAll_of_mem (h : ∀ type ∈ all, type ∈ types cs) :
    initializeAll cs all now = cs := by
  induction all with
  | nil => rfl
  | cons type all ih =>
    have hone : initializeOne now cs type = cs := by
      unfold initializeOne
      split
      · rfl
      next hnone => exact absurd (h type List.mem_cons_self) (find?_eq_none_iff.mp hnone)
    rw [initializeAll, List.foldl_cons, hone]
    exact ih fun type' ht => h type' (List.mem_cons_of_mem type ht)

theorem mem_initializeAll (h : c ∈ initializeAll cs all now) :
    c ∈ cs ∨ ∃ type, c = .initial type now := by
  induction all generalizing cs with
  | nil => exact Or.inl h
  | cons type all ih =>
    rcases ih h with hc | hc
    · unfold initializeOne at hc
      split at hc
      · exact Or.inl hc
      · rcases List.mem_append.mp hc with hc | hc
        · exact Or.inl hc
        · exact Or.inr ⟨type, List.mem_singleton.mp hc⟩
    · exact Or.inr hc

/-- The records of a type are as they were, where there were any; else there may be the initial one. -/
def Completed (now : Instant) (type : ConditionType) (old new : List Condition) : Prop :=
  ofType new type = ofType old type ∨
    ofType old type = [] ∧ ofType new type = [.initial type now]

theorem Completed.tail (h : Completed now type old mid) :
    (ofType mid type).tail = (ofType old type).tail := by
  obtain h | ⟨hnone, h⟩ := h
  · rw [h]
  · rw [h, hnone]
    rfl

theorem completed_initializeOne (now : Instant) (cs : List Condition) (type t : ConditionType) :
    Completed now t cs (initializeOne now cs type) := by
  unfold initializeOne
  split
  · exact Or.inl rfl
  next hnone =>
    by_cases ht : type = t
    · subst ht
      have hempty : ofType cs type = [] := ofType_eq_nil_iff.mpr hnone
      refine Or.inr ⟨hempty, ?_⟩
      simp only [ofType] at hempty
      simp [ofType, hempty, Condition.initial]
    · exact Or.inl (by simp [ofType, ht, Condition.initial])

theorem completed_initializeAll (all : List ConditionType) (t : ConditionType) :
    Completed now t cs (initializeAll cs all now) := by
  induction all generalizing cs with
  | nil => exact Or.inl rfl
  | cons type all ih =>
    have hrest : Completed now t (initializeOne now cs type) (initializeAll cs (type :: all) now) := ih
    obtain hone | ⟨hnone, hone⟩ := completed_initializeOne now cs type t
    · simpa only [Completed, hone] using hrest
    · obtain hsame | ⟨hempty, -⟩ := hrest
      · exact Or.inr ⟨hnone, hsame.trans hone⟩
      · cases hone.symm.trans hempty

theorem find?_initializeAll_of_some (h : find? cs type = some c) :
    find? (initializeAll cs all now) type = some c :=
  ((Touched.refl cs).initializeAll all).others type c List.not_mem_nil h

end ImageForge.Conditions
