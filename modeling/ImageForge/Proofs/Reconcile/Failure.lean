import ImageForge.Proofs.Reconcile.Story
import ImageForge.Proofs.Reconcile.Wakeup

/-! What an invocation that fails leaves behind: all objects as they were, or the status of its image
build as one that has failed. -/
namespace ImageForge

namespace Cluster.Store

variable {s t : Store} {r : Request} {err : ClusterError} {why : String}

theorem writeFinalizers_ne_invalid (s : Store) (snapshot : ImageBuild) (fs : List String) :
    s.writeFinalizers snapshot fs ≠ .error (.invalid why) := by
  cases hb : s.imageBuilds.get? (snapshotKey snapshot) with
  | none => simp [writeFinalizers, hb]
  | some b =>
    by_cases hv : snapshot.metadata.resourceVersion.isSome →
        b.metadata.resourceVersion = snapshot.metadata.resourceVersion
    · rw [writeFinalizers_eq hb hv]
      split <;> exact fun h => by cases h
    · simp [writeFinalizers, hb, if_pos (Classical.not_imp.mp hv)]

theorem perform_commit_ne_invalid {e : Event} {result : Except ClusterError Store}
    (h : result ≠ .error (.invalid why)) :
    perform.commit s e result ≠ (.error (.invalid why), t) := by
  intro hc
  cases result with
  | ok u => cases hc
  | error err =>
    cases hc
    exact h rfl

theorem perform_ne_invalid : s.perform r ≠ (.error (.invalid why), t) := by
  cases r with
  | getImageBuild _ | getJob _ => exact fun h => by cases h
  | addFinalizer _ _ | removeFinalizer _ _ =>
    exact perform_commit_ne_invalid (writeFinalizers_ne_invalid s _ _)
  | patchStatus key status =>
    refine perform_commit_ne_invalid fun h => ?_
    unfold patchStatus at h
    split at h <;> cases h
  | createJob ns job =>
    refine perform_commit_ne_invalid fun h => ?_
    simp only [createJob] at h
    split at h <;> cases h
  | deleteJob key => simp [perform, perform.commit]

theorem answer_error (h : s.answer r = some (.error err, t)) :
    ∃ failures, t = { s with failures } := by
  simp only [answer] at h
  split at h
  · cases h
  · split at h
    · exact ⟨_, (Prod.mk.inj (Option.some.inj h)).2.symm⟩
    · exact ⟨s.failures, store_of_perform_error (Option.some.inj h)⟩

/-- A refusal was waiting for its kind of call. It is used up, and nothing else is changed. -/
theorem answer_invalid (h : s.answer r = some (.error (.invalid why), t)) :
    s.injected? r.operation = some (.rejection why) ∧ s.SameObjects t ∧
      ∀ op ≠ r.operation, t.injected? op = s.injected? op := by
  simp only [answer] at h
  split at h
  · cases h
  · split at h
    next f hwaiting =>
      obtain ⟨hf, rfl⟩ := Prod.mk.inj (Option.some.inj h)
      refine ⟨?_, ⟨rfl, rfl, rfl⟩, ?_⟩
      · cases f with
        | error message => cases hf
        | rejection message =>
          cases hf
          exact hwaiting
      · intro op hne
        simp only [injected?, List.find?_filter]
        congr 2
        funext p
        by_cases hp : p.1 = op <;> simp [hp, hne]
    next => exact absurd (Option.some.inj h) perform_ne_invalid

end Cluster.Store

namespace ImageBuildStatus

open Conditions

variable {blamed : List ConditionType} {generation : Option Int} {now : Instant}
  {old new : ImageBuildStatus}

/-- A build that is under way has failed, and some conditions tell that they are not met. Apart from
the generation, and from initial records where there were none, nothing else is told anew. -/
structure Fails (blamed : List ConditionType) (generation : Option Int) (now : Instant)
    (old new : ImageBuildStatus) : Prop where
  unfinished : ¬ old.phase.isTerminal
  rest : new = { old with
    phase := .failed, conditions := new.conditions, observedGeneration := generation }
  unmet : ∀ type ∈ blamed, new.Says type .false
  others : ∀ type ∉ blamed, Completed now type old.conditions new.conditions
  later : ∀ type, (ofType new.conditions type).tail = (ofType old.conditions type).tail
  order : types old.conditions <+: types new.conditions
  complete : ∀ type, type ∈ types new.conditions

theorem Fails.of_reports (reports : List Report) (unfinished : ¬ old.phase.isTerminal)
    (hn : blamed.Nodup)
    (hvalues : reports.map (fun r => (r.type, r.value)) = blamed.map (·, .false))
    (generation : Option Int) (now : Instant) :
    Fails blamed generation now old { old.refresh generation now with
      phase := old.phase.advance .failed
      conditions := observeAll reports now (old.refresh generation now).conditions } := by
  have htypes : reports.map (·.type) = blamed := by
    simpa [Function.comp_def] using congrArg (List.map Prod.fst) hvalues
  have hinitial : Touched [] old.conditions (old.refresh generation now).conditions :=
    (Touched.refl old.conditions).initializeAll ConditionType.all
  refine ⟨unfinished, ?_, ?_, ?_, ?_, ?_, ?_⟩
  · rw [Phase.advance_of_unfinished unfinished rfl]
    rfl
  · intro type htype
    refine find?_observeAll_of_mem (htypes ▸ hn) ?_
    rw [hvalues]
    exact List.mem_map_of_mem htype
  · intro type htype
    have hkept : ofType (observeAll reports now (old.refresh generation now).conditions) type =
        ofType (old.refresh generation now).conditions type :=
      ofType_observeAll_of_not_mem (htypes ▸ htype)
    rw [Completed, hkept]
    exact completed_initializeAll ConditionType.all type
  · intro type
    exact (tail_ofType_observeAll reports type).trans (completed_initializeAll _ type).tail
  · exact hinitial.order.trans types_prefix_observeAll
  · intro type
    exact types_prefix_observeAll.mem (mem_types_initializeAll type.mem_all)

end ImageBuildStatus

namespace Controller

open Cluster Reconciliation ImageBuildStatus

variable {settings : BuilderSettings} {key : Key} {now : Instant} {s t u : Store} {b : ImageBuild}
  {e : ControllerError} {err : ClusterError} {r : Request} {f : Finding} {v : Verdict}

def Finding.blamed : Finding → List ConditionType
  | .unbuildable e => e.blamed
  | .absent | .terminating _ | .observed _ | .refused _ _ => [.builderJobReady]

theorem Finding.fails_of_error (key : Key) (now : Instant) (hf : f.Holds settings b)
    (he : f.outcome = .error e) :
    Fails f.blamed b.metadata.generation now b.recorded (f.status key b now) := by
  cases f with
  | absent | terminating _ | observed _ => cases he
  | refused job why =>
    obtain ⟨unfinished, -⟩ := hf
    exact .of_reports [⟨.builderJobReady, .false, reasonJobRejected, why⟩] unfinished
      (List.nodup_singleton _) rfl _ _
  | unbuildable e' =>
    obtain ⟨unfinished, -⟩ := hf
    rw [Finding.status, jobNotConstructed_eq]
    exact .of_reports e'.reports unfinished e'.nodup_blamed e'.values_reports _ _

/-- An invocation that fails has had its call fail, or goes on to fail later. -/
theorem ask_error {next : r.Reply → Reconciliation} (h : Ends s (ask r next) (.error e) u) :
    (∃ err, e = .cluster err ∧ s.answer r = some (.error err, u)) ∨
      ∃ x t, Store.Success s r x t ∧ Ends t (next x) (.error e) u := by
  obtain ⟨a, t, ha, h⟩ := ends_call_iff.mp h
  cases a with
  | error err =>
    obtain ⟨he, rfl⟩ := ends_done_iff.mp h
    exact Or.inl ⟨err, (Except.error.inj he).symm, ha⟩
  | ok x =>
    obtain ⟨_, he, -⟩ | ⟨y, hy, hsucc⟩ := Store.answer_cases ha
    · cases he
    · cases hy
      exact Or.inr ⟨x, t, hsucc, h⟩

/-- At most what was to make calls fail has been used up. Only a creation may have failed. -/
structure Spent (s t : Store) : Prop where
  eq : ∃ failures, t = { s with failures }
  waiting : ∀ op ≠ .createJob, t.injected? op = s.injected? op

theorem Spent.refl (s : Store) : Spent s s := ⟨⟨s.failures, rfl⟩, fun _ _ => rfl⟩

theorem Spent.sameObjects (h : Spent s t) : s.SameObjects t := by
  obtain ⟨_, rfl⟩ := h.eq
  exact ⟨rfl, rfl, rfl⟩

theorem Spent.nextVersion (h : Spent s t) : t.nextVersion = s.nextVersion := by
  obtain ⟨_, rfl⟩ := h.eq
  rfl

/-- All that an invocation has changed is the status of its image build, under the next version: the
build has failed, and some conditions tell that they are not met. -/
structure OnlyFails (blamed : List ConditionType) (key : Key) (now : Instant) (s u : Store) :
    Prop where
  status : ∃ b new, s.imageBuilds.get? key = some b ∧
    u.imageBuilds = s.imageBuilds.put key (b.patched new s.nextVersion) ∧
    Fails blamed b.metadata.generation now b.recorded new
  jobs : u.jobs = s.jobs
  events : u.events = s.events ++ [.statusPatched key]

theorem OnlyFails.of_told (now : Instant) (before : Spent s t)
    (stored : s.imageBuilds.get? key = some b) (found : f.Holds settings b)
    (outcome : f.outcome = .error e) :
    OnlyFails f.blamed key now s
      ((t.replaced key (b.patched (f.status key b now) t.nextVersion)).record
        (.statusPatched key)) := by
  obtain ⟨himageBuilds, hjobs, hevents⟩ := before.sameObjects
  refine ⟨⟨b, _, stored, ?_, Finding.fails_of_error key now found outcome⟩, hjobs, ?_⟩
  · rw [← himageBuilds, ← before.nextVersion]
    rfl
  · exact congrArg (· ++ [_]) hevents

/-- How an invocation fails: by a call that has failed, or because no job could be had and the
status tells so. -/
inductive Failing (key : Key) (now : Instant) (s u : Store) : ControllerError → Prop
  | call {r : Request} {t : Store} {err : ClusterError} (before : Spent s t)
      (answer : t.answer r = some (.error err, u))
      (untold : r.operation = .createJob → ∀ why, err ≠ .invalid why) :
      Failing key now s u (.cluster err)
  | unbuildable (e : JobError) (failed : OnlyFails e.blamed key now s u) :
      Failing key now s u (.jobConstruction e)
  | refused {why : String} (waiting : s.injected? .createJob = some (.rejection why))
      (failed : OnlyFails [.builderJobReady] key now s u) :
      Failing key now s u (.cluster (.invalid why))

theorem Failing.of_answer (ha : s.answer r = some (.error err, u)) (hr : r.operation ≠ .createJob) :
    Failing key now s u (.cluster err) :=
  .call (.refl s) ha fun h => absurd h hr

/-- A call that is the last one makes the invocation fail only when it fails. -/
theorem ask_failing (h : Ends s (ask r fun _ => .done (.ok v)) (.error e) u)
    (hr : r.operation ≠ .createJob) : Failing key now s u e := by
  obtain ⟨err, rfl, ha⟩ | ⟨x, t, -, h⟩ := ask_error h
  · exact .of_answer ha hr
  · cases (ends_done_iff.mp h).1

theorem persist_failing (settings : BuilderSettings) (before : Spent s t)
    (hb : s.imageBuilds.get? key = some b) (found : f.Holds settings b)
    (rejected : ∀ job why, f = .refused job why → s.injected? .createJob = some (.rejection why))
    (h : Ends t (persist key (b.status.getD {}) (f.status key b now) (.done f.outcome))
      (.error e) u) :
    Failing key now s u e := by
  unfold persist at h
  split at h
  next hsame =>
    -- Nothing is stored when nothing is news, but that a build has failed is news.
    have hfails := Finding.fails_of_error key now found (ends_done_iff.mp h).1
    have hphase := congrArg (·.phase) (hsame.trans hfails.rest)
    exact absurd (by rw [ImageBuild.recorded, hphase]; rfl) hfails.unfinished
  next =>
    obtain ⟨err, rfl, ha⟩ | ⟨_, t', hpatched, h⟩ := ask_error h
    · exact .call before ha (by rintro ⟨⟩)
    · obtain ⟨outcome, rfl⟩ := ends_done_iff.mp h
      cases hpatched with
      | statusPatched _ stored =>
        cases (before.sameObjects.imageBuilds ▸ stored).symm.trans hb
        have failed := OnlyFails.of_told now before hb found outcome
        cases f with
        | absent | terminating _ | observed _ => cases outcome
        | refused job why =>
          cases outcome
          exact .refused (rejected job why rfl) failed
        | unbuildable e' =>
          cases outcome
          exact .unbuildable e' failed

theorem reconcileJobless_failing (hb : s.imageBuilds.get? key = some b)
    (h : Ends s (reconcileJobless settings key b now) (.error e) u) :
    Failing key now s u e := by
  by_cases terminal : (b.status.getD {}).phase.isTerminal
  · rw [reconcileJobless_of_terminal key terminal] at h
    exact persist_failing settings (f := .absent) (.refl s) hb terminal
      (fun _ _ hf => by cases hf) h
  cases built : ownedBuilderJob b settings with
  | error e' =>
    rw [reconcileJobless_of_unbuildable key terminal built] at h
    exact persist_failing settings (f := .unbuildable e') (.refl s) hb ⟨terminal, built⟩
      (fun _ _ hf => by cases hf) h
  | ok job =>
    rw [reconcileJobless, if_neg terminal, startJob, built] at h
    obtain ⟨a, t, ha, h⟩ := ends_call_iff.mp h
    cases a with
    | ok x => cases (ends_done_iff.mp h).1
    | error err =>
      cases err with
      | alreadyExists what => cases (ends_done_iff.mp h).1
      | failure _ | notFound _ | conflict _ | serialization | api _ =>
        obtain ⟨he, rfl⟩ := ends_done_iff.mp h
        cases he
        exact .call (.refl s) ha fun _ why hw => by cases hw
      | invalid why =>
        obtain ⟨waiting, -, hothers⟩ := Store.answer_invalid ha
        refine persist_failing settings (f := .refused job why)
          ⟨Store.answer_error ha, hothers⟩ hb ⟨terminal, built⟩ ?_ h
        rintro _ _ ⟨⟩
        exact waiting

theorem reconcileGuarded_failing (hb : s.imageBuilds.get? key = some b)
    (h : Ends s (reconcileGuarded settings key b now) (.error e) u) :
    Failing key now s u e := by
  obtain ⟨err, rfl, ha⟩ | ⟨found, t, hread, h⟩ := ask_error h
  · exact .of_answer ha (by rintro ⟨⟩)
  · cases hread with
    | jobRead stored =>
      cases found with
      | none => exact reconcileJobless_failing hb h
      | some job =>
        by_cases hd : job.metadata.isBeingDeleted
        · simp only [if_pos hd] at h
          exact persist_failing settings (f := .terminating job) (.refl s) hb hd
            (fun _ _ hf => by cases hf) h
        · simp only [if_neg hd] at h
          exact persist_failing settings (f := .observed job) (.refl s) hb hd
            (fun _ _ hf => by cases hf) h

theorem reconcileDeleted_failing (h : Ends s (reconcileDeleted key b) (.error e) u) :
    Failing key now s u e := by
  unfold reconcileDeleted at h
  split at h
  · cases (ends_done_iff.mp h).1
  · obtain ⟨err, rfl, ha⟩ | ⟨found, t, hread, h⟩ := ask_error h
    · exact .of_answer ha (by rintro ⟨⟩)
    · cases hread with
      | jobRead _ =>
        cases found with
        | none => exact ask_failing h (by rintro ⟨⟩)
        | some job =>
          by_cases hd : job.metadata.isBeingDeleted
          · simp only [if_pos hd] at h
            cases (ends_done_iff.mp h).1
          · simp only [if_neg hd] at h
            exact ask_failing h (by rintro ⟨⟩)

/-- An invocation fails only in one of these ways. -/
theorem reconcile_failing (h : Ends s (reconcile settings key now) (.error e) u) :
    Failing key now s u e := by
  obtain ⟨err, rfl, ha⟩ | ⟨found, t, hread, h⟩ := ask_error h
  · exact .of_answer ha (by rintro ⟨⟩)
  · cases hread with
    | imageBuildRead stored =>
      cases found with
      | none => cases (ends_done_iff.mp h).1
      | some b =>
        replace h : Ends s (reconcileRead settings key b now) (.error e) u := h
        by_cases hd : b.isBeingDeleted
        · rw [reconcileRead, if_pos hd] at h
          exact reconcileDeleted_failing h
        · by_cases hf : b.hasFinalizer
          · rw [reconcileRead_of_guarded key hd hf] at h
            exact reconcileGuarded_failing stored h
          · rw [reconcileRead, if_neg hd, if_pos (by simpa using hf)] at h
            exact ask_failing h (by rintro ⟨⟩)

/-- What an invocation leaves behind that fails. Where a call has failed, no object is changed. Where
no job could be made, or where it was refused, the build has failed as well. -/
inductive Leaves (key : Key) (now : Instant) (s u : Store) : ControllerError → Prop
  | untouched (err : ClusterError) (same : s.SameObjects u) : Leaves key now s u (.cluster err)
  | unbuildable (e : JobError) (failed : OnlyFails e.blamed key now s u) :
      Leaves key now s u (.jobConstruction e)
  | refused (why : String) (waiting : s.injected? .createJob = some (.rejection why))
      (failed : OnlyFails [.builderJobReady] key now s u) :
      Leaves key now s u (.cluster (.invalid why))

/-- An invocation that fails has changed no object, or it has stored that the build has failed, and
why no job could be had. -/
theorem failure_atomic (h : Ends s (reconcile settings key now) (.error e) u) :
    Leaves key now s u e := by
  cases reconcile_failing h with
  | call before answer _ =>
    exact .untouched _ (before.sameObjects.trans (Store.answer_sameObjects answer rfl))
  | unbuildable e failed => exact .unbuildable e failed
  | refused waiting failed => exact .refused _ waiting failed

/-- The refusal of its job is all that is told of a plain image build. -/
theorem plain_refusal_atomic :
    let key : Key := ⟨"images", "web"⟩
    let s := (({} : Store).addImageBuild plainImageBuild).inject .createJob (.rejection "denied")
    ∃ u, Ends s (reconcile {} key ⟨0, 0⟩) (.error (.cluster (.invalid "denied"))) u ∧
      OnlyFails [.builderJobReady] key ⟨0, 0⟩ s u := by
  intro key s
  have hends : Ends s (reconcile {} key ⟨0, 0⟩) _ _ := ⟨rfl, rfl⟩
  refine ⟨_, hends, ?_⟩
  cases failure_atomic hends with
  | untouched _ same => cases same.events
  | refused _ _ failed => exact failed

end Controller

end ImageForge
