import ImageForge.Proofs.Resource.Reports
import Mathlib.Data.List.Induction

/-! Lists of conditions through a history of calls, which alone decide what each record tells, and since
when. -/
namespace ImageForge

/-- What is told of an aspect that nothing has been observed of. -/
def Report.initial (type : ConditionType) : Report :=
  ⟨type, .unknown, Condition.initializing, "Unknown"⟩

/-- What a record tells, apart from since when. -/
def Condition.report (c : Condition) : Report := ⟨c.type, c.status, c.reason, c.message⟩

namespace Conditions

/-- A call that changes a list of conditions. -/
inductive Call
  | ensure (types : List ConditionType) (now : Instant)
  | observe (report : Report) (now : Instant)

namespace Call

def time : Call → Instant
  | .ensure _ now | .observe _ now => now

def mentioned : Call → List ConditionType
  | .ensure types _ => types
  | .observe r _ => [r.type]

/-- What a call tells of a type, if it is an observation of it. -/
def report? (type : ConditionType) : Call → Option Report
  | .ensure _ _ => none
  | .observe r _ => if r.type = type then some r else none

def apply : Call → List Condition → List Condition
  | .ensure types now, cs => initializeAll cs types now
  | .observe r now, cs => Conditions.observe r.type r.value r.reason r.message now cs

end Call

variable {cs : List Condition} {calls : List Call} {call : Call} {type : ConditionType}
  {all : List ConditionType} {now t : Instant} {c d : Condition}

def run (calls : List Call) (cs : List Condition) : List Condition :=
  calls.foldl (fun cs call => call.apply cs) cs

/-- What the record of a type tells after some calls, if there is one: what was observed last of it,
else what it told before, else that nothing has been observed yet. -/
def told? (cs : List Condition) (type : ConditionType) (calls : List Call) : Option Report :=
  ((calls.filterMap (Call.report? type)).getLast?.or ((find? cs type).map Condition.report)).or
    (if ∃ call ∈ calls, type ∈ call.mentioned then some (.initial type) else none)

/-- A call that comes after some others creates the record of a type, or changes its value. -/
def Moves (cs : List Condition) (type : ConditionType) (before : List Call) (call : Call) : Prop :=
  (told? cs type (before ++ [call])).map Report.value ≠ (told? cs type before).map Report.value

/-- Since when the record of a type has its value: since the last call that created it or changed the
value; without such a call, since as long as it had it before. -/
inductive Since (cs : List Condition) (type : ConditionType) (calls : List Call) : Instant → Prop
  | moved {before moving after} (split : calls = before ++ moving :: after)
      (moves : Moves cs type before moving)
      (last : ∀ between next rest, after = between ++ next :: rest →
        ¬ Moves cs type (before ++ moving :: between) next) : Since cs type calls moving.time
  | kept {old} (found : find? cs type = some old)
      (never : ∀ before call after, calls = before ++ call :: after → ¬ Moves cs type before call) :
      Since cs type calls old.lastTransitionTime

theorem run_snoc (calls : List Call) (call : Call) (cs : List Condition) :
    run (calls ++ [call]) cs = call.apply (run calls cs) := by
  rw [run, List.foldl_append]
  rfl

theorem find?_initializeOne (now : Instant) (cs : List Condition) (new type : ConditionType) :
    find? (initializeOne now cs new) type =
      (find? cs type).or (if type = new then some (.initial type now) else none) := by
  unfold initializeOne
  split
  next c hc =>
    by_cases hnew : type = new
    · rw [hnew, hc]
      rfl
    · rw [if_neg hnew, Option.or_none]
  next hnone =>
    rw [find?, find?, List.find?_append]
    congr 1
    by_cases hnew : type = new
    · simp [hnew, Condition.initial]
    · have hne : ¬ new = type := fun he => hnew he.symm
      simp [hnew, hne, Condition.initial]

theorem find?_initializeAll (cs : List Condition) (all : List ConditionType) (now : Instant)
    (type : ConditionType) : find? (initializeAll cs all now) type =
      (find? cs type).or (if type ∈ all then some (.initial type now) else none) := by
  induction all generalizing cs with
  | nil => exact Option.or_none.symm
  | cons new all ih =>
    have hrest : find? (initializeAll cs (new :: all) now) type = _ := ih (initializeOne now cs new)
    rw [hrest, find?_initializeOne, Option.or_assoc]
    congr 1
    by_cases hnew : type = new <;> simp [hnew]

theorem prefix_initializeAll (cs : List Condition) (all : List ConditionType) (now : Instant) :
    cs <+: initializeAll cs all now := by
  induction all generalizing cs with
  | nil => exact List.prefix_rfl
  | cons new all ih =>
    have hone : cs <+: initializeOne now cs new := by
      unfold initializeOne
      split
      · exact List.prefix_rfl
      · exact List.prefix_append _ _
    exact hone.trans (ih (initializeOne now cs new))

theorem find?_observe_of_none {status : ConditionStatus} {reason message : String}
    (h : find? cs type = none) : find? (observe type status reason message now cs) type =
      some ⟨type, status, reason, message, now⟩ := by
  induction cs with
  | nil => simp [observe, find?]
  | cons c cs ih =>
    have hc : c.type ≠ type := fun he => find?_eq_none_iff.mp h (he ▸ List.mem_cons_self)
    have hrest : find? cs type = none := by simpa [find?, hc] using h
    rw [observe, if_neg hc]
    simpa [find?, hc] using ih hrest

theorem find?_of_mem (hn : (types cs).Nodup) (hc : c ∈ cs) : find? cs c.type = some c := by
  induction cs with
  | nil => cases hc
  | cons d cs ih =>
    obtain ⟨hfirst, hrest⟩ := List.nodup_cons.mp hn
    rcases List.mem_cons.mp hc with rfl | hc
    · simp [find?]
    · have hne : d.type ≠ c.type := by
        intro he
        exact hfirst (List.mem_map.mpr ⟨c, hc, he.symm⟩)
      simpa [find?, hne] using ih hrest hc

namespace Call

/-- A call keeps the records in their order, and never gives a type a second one. -/
theorem touched (call : Call) (cs : List Condition) :
    ∃ ts, Touched ts cs (call.apply cs) := by
  cases call with
  | ensure all now => exact ⟨[], (Touched.refl cs).initializeAll all⟩
  | observe r now => exact ⟨[r.type], (Touched.refl cs).observe List.not_mem_nil⟩

theorem report_apply (call : Call) (cs : List Condition) (type : ConditionType) :
    (find? (call.apply cs) type).map Condition.report =
      ((call.report? type).or ((find? cs type).map Condition.report)).or
        (if type ∈ call.mentioned then some (.initial type) else none) := by
  cases call with
  | ensure all now =>
    rw [apply, find?_initializeAll, report?, mentioned, Option.none_or]
    cases find? cs type with
    | some c => rfl
    | none => split <;> rfl
  | observe r now =>
    by_cases hr : type = r.type
    · subst hr
      obtain ⟨time, htime⟩ := find?_observe r.type r.value r.reason r.message now cs
      rw [apply, htime, report?, if_pos rfl]
      rfl
    · have hne : ¬ r.type = type := fun he => hr he.symm
      rw [apply, find?_observe_of_ne hr, report?, if_neg hne, mentioned, Option.none_or,
        if_neg (by simpa using hr), Option.or_none]

theorem time_apply (h : find? (call.apply cs) type = some c) :
    (some c.status ≠ (find? cs type).map (·.status) ∧ c.lastTransitionTime = call.time) ∨
      ∃ d, find? cs type = some d ∧ c.status = d.status ∧
        c.lastTransitionTime = d.lastTransitionTime := by
  cases call with
  | ensure all now =>
    rw [apply, find?_initializeAll] at h
    cases hd : find? cs type with
    | some d =>
      rw [hd] at h
      cases h
      exact Or.inr ⟨c, rfl, rfl, rfl⟩
    | none =>
      rw [hd, Option.none_or] at h
      split at h
      · cases h
        exact Or.inl ⟨nofun, rfl⟩
      · cases h
  | observe r now =>
    rw [apply] at h
    by_cases hr : type = r.type
    · subst hr
      cases hd : find? cs r.type with
      | none =>
        rw [find?_observe_of_none hd] at h
        cases h
        exact Or.inl ⟨nofun, rfl⟩
      | some d =>
        rw [find?_observe_of_some hd] at h
        cases h
        by_cases hsame : d.status = r.value
        · exact Or.inr ⟨d, rfl, hsame.symm, if_pos hsame⟩
        · refine Or.inl ⟨fun he => hsame ?_, if_neg hsame⟩
          exact (Option.some.inj he).symm
    · rw [find?_observe_of_ne hr] at h
      exact Or.inr ⟨c, h, rfl, rfl⟩

end Call

theorem told?_snoc (cs : List Condition) (type : ConditionType) (calls : List Call) (call : Call) :
    told? cs type (calls ++ [call]) = ((call.report? type).or (told? cs type calls)).or
      (if type ∈ call.mentioned then some (.initial type) else none) := by
  have hmentioned : (∃ x ∈ calls ++ [call], type ∈ x.mentioned) ↔
      (∃ x ∈ calls, type ∈ x.mentioned) ∨ type ∈ call.mentioned := by
    simp [or_and_right, exists_or]
  simp only [told?, hmentioned, List.filterMap_append, List.getLast?_append]
  cases hr : call.report? type with
  | some r => simp [hr]
  | none =>
    by_cases hcalls : ∃ x ∈ calls, type ∈ x.mentioned
    · simp [hr, hcalls]
    · simp [hr, hcalls]

/-- The record of a type tells what the calls have told of it. -/
theorem report_run (cs : List Condition) (type : ConditionType) (calls : List Call) :
    (find? (run calls cs) type).map Condition.report = told? cs type calls := by
  induction calls using List.reverseRecOn with
  | nil => simp [run, told?]
  | append_singleton calls call ih => rw [run_snoc, Call.report_apply, ih, told?_snoc]

theorem status_run (cs : List Condition) (type : ConditionType) (calls : List Call) :
    (find? (run calls cs) type).map (·.status) = (told? cs type calls).map Report.value := by
  rw [← report_run, Option.map_map]
  rfl

theorem Since.snoc (h : Since cs type calls t) (hcall : ¬ Moves cs type calls call) :
    Since cs type (calls ++ [call]) t := by
  have hsplit : ∀ {l before : List Call} {next : Call} {after : List Call},
      l ++ [call] = before ++ next :: after →
        (before = l ∧ next = call) ∨ ∃ rest, l = before ++ next :: rest := by
    intro l before next after he
    rcases List.eq_nil_or_concat after with rfl | ⟨rest, last, rfl⟩
    · obtain ⟨hl, hnext⟩ := List.append_inj' he rfl
      exact Or.inl ⟨hl.symm, (List.singleton_inj.mp hnext).symm⟩
    · refine Or.inr ⟨rest, ?_⟩
      rw [List.concat_eq_append, ← List.cons_append, ← List.append_assoc] at he
      exact (List.append_inj' he rfl).1
  cases h with
  | @moved before moving after split moves last =>
    have hsame : calls ++ [call] = before ++ moving :: (after ++ [call]) := by simp [split]
    refine .moved hsame moves fun between next rest he => ?_
    rcases hsplit he with ⟨rfl, rfl⟩ | ⟨rest, hafter⟩
    · rwa [← split]
    · exact last between next rest hafter
  | @kept old found never =>
    refine .kept found fun before next after he => ?_
    rcases hsplit he with ⟨rfl, rfl⟩ | ⟨rest, hcalls⟩
    · exact hcall
    · exact never before next rest hcalls

/-- The record of a type tells since when it has its value. -/
theorem since_run (h : find? (run calls cs) type = some c) :
    Since cs type calls c.lastTransitionTime := by
  induction calls using List.reverseRecOn generalizing c with
  | nil =>
    refine .kept h fun before call after he => ?_
    simp at he
  | append_singleton calls call ih =>
    have hafter := status_run cs type (calls ++ [call])
    have hbefore := status_run cs type calls
    rw [h] at hafter
    rw [run_snoc] at h
    rcases Call.time_apply h with ⟨hnew, htime⟩ | ⟨d, hd, hsame, htime⟩
    · have hmoves : Moves cs type calls call := by
        rw [Moves, ← hafter, ← hbefore]
        exact hnew
      rw [htime]
      exact .moved rfl hmoves fun between next rest he => by simp at he
    · have hstill : ¬ Moves cs type calls call := by
        rw [Moves, ← hafter, ← hbefore, hd, not_not]
        exact congrArg some hsame
      rw [htime]
      exact (ih hd).snoc hstill

theorem types_prefix_run (calls : List Call) (cs : List Condition) :
    types cs <+: types (run calls cs) := by
  induction calls using List.reverseRecOn with
  | nil => exact List.prefix_rfl
  | append_singleton calls call ih =>
    obtain ⟨ts, h⟩ := call.touched (run calls cs)
    rw [run_snoc]
    exact ih.trans h.order

theorem nodup_types_run (hn : (types cs).Nodup) (calls : List Call) :
    (types (run calls cs)).Nodup := by
  induction calls using List.reverseRecOn with
  | nil => exact hn
  | append_singleton calls call ih =>
    obtain ⟨ts, h⟩ := call.touched (run calls cs)
    rw [run_snoc]
    exact h.nodup ih

theorem mem_types_iff : type ∈ types cs ↔ (find? cs type).isSome := by
  rw [← not_iff_not, ← find?_eq_none_iff, Option.not_isSome_iff_eq_none]

theorem Call.mem_types_apply : type ∈ types (call.apply cs) ↔
    type ∈ types cs ∨ type ∈ call.mentioned := by
  rw [mem_types_iff, mem_types_iff, ← Option.isSome_map (f := Condition.report), report_apply]
  cases call with
  | ensure all now => by_cases h : type ∈ all <;> simp [report?, mentioned, h]
  | observe r now =>
    by_cases h : type = r.type
    · simp [report?, mentioned, h]
    · have hne : ¬ r.type = type := fun he => h he.symm
      simp [report?, mentioned, h, hne]

theorem mem_types_run : type ∈ types (run calls cs) ↔
    type ∈ types cs ∨ ∃ call ∈ calls, type ∈ call.mentioned := by
  induction calls using List.reverseRecOn with
  | nil => simp [run]
  | append_singleton calls call ih =>
    rw [run_snoc, Call.mem_types_apply, ih]
    simp [or_and_right, exists_or, or_assoc]

/-- Records are found by type, whatever calls are made: no type gets a second one, none of them is
lost or leaves its place, and exactly the types that are mentioned get one. Initial records leave all
others as they are. Each record tells what was told last of its type, and since when its value is what
it is. -/
theorem conditions_tell_history (hn : (types cs).Nodup) (calls : List Call) :
    (types (run calls cs)).Nodup ∧
    types cs <+: types (run calls cs) ∧
    (∀ type, type ∈ types (run calls cs) ↔
      type ∈ types cs ∨ ∃ call ∈ calls, type ∈ call.mentioned) ∧
    (∀ before all now after, calls = before ++ .ensure all now :: after →
      run before cs <+: run (before ++ [.ensure all now]) cs) ∧
    ∀ c ∈ run calls cs, told? cs c.type calls = some c.report ∧
      Since cs c.type calls c.lastTransitionTime := by
  have hnodup := nodup_types_run hn calls
  refine ⟨hnodup, types_prefix_run calls cs, fun type => mem_types_run, ?_, ?_⟩
  · intro before all now after _
    rw [run_snoc]
    exact prefix_initializeAll (run before cs) all now
  · intro c hc
    have hfound := find?_of_mem hnodup hc
    have htold := report_run cs c.type calls
    rw [hfound] at htold
    exact ⟨htold.symm, since_run hfound⟩

/-- An output that is observed twice in the same way is ready since the first time. -/
theorem output_ready_since_first :
    let job : Condition := ⟨.builderJobReady, .false, "JobRunning", "", ⟨1, 0⟩⟩
    let calls : List Call := [
      .ensure [.outputReady, .outputReady, .builderJobReady] ⟨2, 0⟩,
      .observe ⟨.outputReady, .true, "Archived", ""⟩ ⟨3, 0⟩,
      .observe ⟨.outputReady, .true, "Archived", "done"⟩ ⟨4, 0⟩]
    let output : Condition := ⟨.outputReady, .true, "Archived", "done", ⟨3, 0⟩⟩
    (types [job]).Nodup ∧ run calls [job] = [job, output] ∧
      told? [job] .outputReady calls = some ⟨.outputReady, .true, "Archived", "done"⟩ ∧
      Since [job] .outputReady calls ⟨3, 0⟩ := by
  intro job calls output
  have hn : (types [job]).Nodup := List.nodup_singleton _
  have hrun : run calls [job] = [job, output] := rfl
  obtain ⟨-, -, -, -, hrecords⟩ := conditions_tell_history hn calls
  obtain ⟨htold, hsince⟩ := hrecords output (by simp [hrun])
  exact ⟨hn, hrun, htold, hsince⟩

end Conditions

end ImageForge
