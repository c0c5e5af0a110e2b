import ImageForge.Proofs.Resource.Conditions

/-! What conditions tell, apart from since when. Observing what they tell already leaves them as they
are. -/
namespace ImageForge

/-- An observation that a condition is to tell. -/
structure Report where
  type : ConditionType
  value : ConditionStatus
  reason : String
  message : String

theorem Report.nodup_of_values {reports : List Report}
    {values : List (ConditionType × ConditionStatus)}
    (h : reports.map (fun r => (r.type, r.value)) = values) (hn : (values.map (·.1)).Nodup) :
    (reports.map (·.type)).Nodup := by
  rw [← h, List.map_map] at hn
  exact hn

namespace Conditions

variable {r : Report} {reports : List Report} {type : ConditionType} {now now' : Instant}
  {cs : List Condition}

def observeAll (reports : List Report) (now : Instant) (cs : List Condition) : List Condition :=
  reports.foldl (fun cs r => observe r.type r.value r.reason r.message now cs) cs

/-- The first record of the type tells what was observed, since whenever. -/
def Tell (cs : List Condition) (r : Report) : Prop :=
  ∃ time, find? cs r.type = some ⟨r.type, r.value, r.reason, r.message, time⟩

theorem observe_of_tell (h : Tell cs r) :
    observe r.type r.value r.reason r.message now cs = cs := by
  obtain ⟨time, h⟩ := h
  induction cs with
  | nil => cases h
  | cons c cs ih =>
    by_cases hc : c.type = r.type
    · simp only [find?, hc, decide_true, List.find?_cons_of_pos, Option.some.injEq] at h
      simp [observe, h, Condition.observe]
    · have hrest : find? cs r.type = some ⟨r.type, r.value, r.reason, r.message, time⟩ := by
        simpa [find?, hc] using h
      rw [observe, if_neg hc, ih hrest]

theorem observeAll_of_tell (h : ∀ r ∈ reports, Tell cs r) : observeAll reports now cs = cs := by
  induction reports with
  | nil => rfl
  | cons r reports ih =>
    rw [observeAll, List.foldl_cons, observe_of_tell (h r List.mem_cons_self)]
    exact ih fun r' hr' => h r' (List.mem_cons_of_mem r hr')

theorem find?_observeAll_of_not_mem (h : type ∉ reports.map (·.type)) :
    find? (observeAll reports now cs) type = find? cs type := by
  induction reports generalizing cs with
  | nil => rfl
  | cons r reports ih =>
    obtain ⟨hne, hrest⟩ := List.ne_and_not_mem_of_not_mem_cons h
    rw [observeAll, List.foldl_cons]
    exact (ih hrest).trans (find?_observe_of_ne hne)

theorem ofType_observeAll_of_not_mem (h : type ∉ reports.map (·.type)) :
    ofType (observeAll reports now cs) type = ofType cs type := by
  induction reports generalizing cs with
  | nil => rfl
  | cons r reports ih =>
    obtain ⟨hne, hrest⟩ := List.ne_and_not_mem_of_not_mem_cons h
    rw [observeAll, List.foldl_cons]
    exact (ih hrest).trans (ofType_observe_of_ne hne)

theorem tail_ofType_observeAll (reports : List Report) (type : ConditionType) :
    (ofType (observeAll reports now cs) type).tail = (ofType cs type).tail := by
  induction reports generalizing cs with
  | nil => rfl
  | cons r reports ih =>
    rw [observeAll, List.foldl_cons]
    exact ih.trans (tail_ofType_observe type)

theorem types_prefix_observeAll : types cs <+: types (observeAll reports now cs) := by
  induction reports generalizing cs with
  | nil => exact List.prefix_rfl
  | cons r reports ih =>
    rw [observeAll, List.foldl_cons]
    exact types_prefix_observe.trans ih

/-- Of observations of different types each is told afterwards. -/
theorem tell_observeAll (hn : (reports.map (·.type)).Nodup) (hr : r ∈ reports) :
    Tell (observeAll reports now cs) r := by
  induction reports generalizing cs with
  | nil => cases hr
  | cons r' reports ih =>
    obtain ⟨hnew, hrest⟩ := List.nodup_cons.mp hn
    rw [observeAll, List.foldl_cons]
    rcases List.mem_cons.mp hr with rfl | hr
    · obtain ⟨time, htime⟩ := find?_observe r.type r.value r.reason r.message now cs
      exact ⟨time, (find?_observeAll_of_not_mem hnew).trans htime⟩
    · exact ih hrest hr

theorem find?_observeAll_of_mem {value : ConditionStatus} (hn : (reports.map (·.type)).Nodup)
    (hm : (type, value) ∈ reports.map fun r => (r.type, r.value)) :
    ∃ c, find? (observeAll reports now cs) type = some c ∧ c.status = value := by
  obtain ⟨r, hr, heq⟩ := List.mem_map.mp hm
  cases heq
  obtain ⟨time, htime⟩ := tell_observeAll hn hr
  exact ⟨_, htime, rfl⟩

theorem observeAll_again (hn : (reports.map (·.type)).Nodup) :
    observeAll reports now' (observeAll reports now cs) = observeAll reports now cs :=
  observeAll_of_tell fun _ hr => tell_observeAll hn hr

end Conditions

end ImageForge
