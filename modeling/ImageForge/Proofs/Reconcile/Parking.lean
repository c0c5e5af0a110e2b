import ImageForge.Controller.Operator
import ImageForge.Proofs.Reconcile.Failure

/-! Failures after which an image build is left alone until it changes. Those of its job are on record;
other refusals are not. -/
namespace ImageForge

namespace Controller

open Cluster Reconciliation ImageBuildStatus

variable {key : Key} {now : Instant} {s u : Store} {b : ImageBuild} {e : ControllerError}
  {err : ClusterError}

/-- The status stored for a key tells that the build has failed and its job is not ready. -/
def FailureRecorded (key : Key) (s : Store) : Prop :=
  ∃ c, s.imageBuilds.get? key = some c ∧ c.recorded.phase = .failed ∧
    c.recorded.Says .builderJobReady .false

/-- Why an invocation fails that is not tried again. Where a job could not be made or was refused, the
failure is recorded; where another call was refused, nothing is. -/
inductive Parked (key : Key) (s u : Store) : ControllerError → Prop
  | unbuildable (e : JobError) (recorded : FailureRecorded key u) :
      Parked key s u (.jobConstruction e)
  | refused {why : String} (waiting : s.injected? .createJob = some (.rejection why))
      (recorded : FailureRecorded key u) : Parked key s u (.cluster (.invalid why))
  | silent {op : Operation} {why : String} (waiting : s.injected? op = some (.rejection why))
      (elsewhere : op ≠ .createJob) (same : s.SameObjects u) :
      Parked key s u (.cluster (.invalid why))

theorem Parked.not_isRetryable (h : Parked key s u e) : ¬ e.isRetryable := by
  cases h <;> exact Bool.false_ne_true

theorem invalid_of_not_isRetryable (h : ¬ (ControllerError.cluster err).isRetryable) :
    ∃ why, err = .invalid why := by
  cases err with
  | invalid why => exact ⟨why, rfl⟩
  | failure _ | notFound _ | conflict _ | alreadyExists _ | serialization | api _ =>
    exact absurd rfl h

theorem OnlyFails.failureRecorded {blamed : List ConditionType} (h : OnlyFails blamed key now s u)
    (hj : .builderJobReady ∈ blamed) : FailureRecorded key u := by
  obtain ⟨b, status, -, himageBuilds, hfails⟩ := h.status
  refine ⟨b.patched status s.nextVersion, ?_, congrArg (·.phase) hfails.rest,
    hfails.unmet _ hj⟩
  rw [himageBuilds]
  exact Table.get?_put_self _ _ _

/-- A failure that is not tried again has one of these reasons. -/
theorem Failing.parked (h : Failing key now s u e) (fatal : ¬ e.isRetryable) : Parked key s u e := by
  cases h with
  | @call r t err before answer untold =>
    obtain ⟨why, rfl⟩ := invalid_of_not_isRetryable fatal
    obtain ⟨waiting, same, -⟩ := Store.answer_invalid answer
    have elsewhere : r.operation ≠ .createJob := fun hr => untold hr why rfl
    exact .silent ((before.waiting _ elsewhere).symm.trans waiting) elsewhere
      (before.sameObjects.trans same)
  | unbuildable e failed => exact .unbuildable e (failed.failureRecorded List.mem_cons_self)
  | refused waiting failed => exact .refused waiting (failed.failureRecorded List.mem_cons_self)

theorem Operator.reconcile_error {o : Operator}
    (h : (o.reconcile key now).result = some (.error e)) :
    Ends o.store (Controller.reconcile o.config.builder key now) (.error e)
        (o.reconcile key now).operator.store ∧
      (o.reconcile key now).operator.config = o.config ∧
      (o.reconcile key now).operator.retries = o.retries := by
  cases hr : ((Controller.reconcile o.config.builder key now).run o.store).result with
  | none => simp [Operator.reconcile, hr] at h
  | some outcome =>
    cases outcome with
    | ok v => simp [Operator.reconcile, hr, Except.map] at h
    | error e' =>
      obtain rfl : e' = e := by simpa [Operator.reconcile, hr, Except.map] using h
      have hoperator : (o.reconcile key now).operator =
          { o with store := ((Controller.reconcile o.config.builder key now).run o.store).store } := by
        simp only [Operator.reconcile, hr]
        rfl
      rw [hoperator]
      exact ⟨⟨hr, rfl⟩, rfl, rfl⟩

/-- A failure that is not tried again is on record, unless a call other than the creation of the job
was refused. Every other failure is tried again after the next delay of the image build. -/
theorem failure_parked_iff (o : Operator) (now : Instant) (hb : snapshotKey b = key)
    (h : (o.reconcile key now).result = some (.error e)) :
    let after := (o.reconcile key now).operator
    ((after.failurePolicy b e).1 = .awaitChange ↔ Parked key o.store after.store e) ∧
      ((after.failurePolicy b e).1 ≠ .awaitChange →
        (after.failurePolicy b e).1 = .requeue (o.retries.nextDelay o.config key.text).1 ∧
        (after.failurePolicy b e).2.retries = (o.retries.nextDelay o.config key.text).2) := by
  intro after
  obtain ⟨hends, hconfig, hretries⟩ := Operator.reconcile_error h
  have hpolicy : after.failurePolicy b e =
      ((o.retries.afterFailure o.config key.text e).1,
        { after with retries := (o.retries.afterFailure o.config key.text e).2 }) := by
    rw [Operator.failurePolicy, hb, hconfig, hretries]
  by_cases hretry : e.isRetryable
  · have hagain : o.retries.afterFailure o.config key.text e =
        (.requeue (o.retries.nextDelay o.config key.text).1,
          (o.retries.nextDelay o.config key.text).2) := if_pos hretry
    rw [hpolicy, hagain]
    exact ⟨⟨fun hp => (by cases hp), fun hp => absurd hretry hp.not_isRetryable⟩,
      fun _ => ⟨rfl, rfl⟩⟩
  · have hnever : o.retries.afterFailure o.config key.text e = (.awaitChange, o.retries) :=
      if_neg hretry
    rw [hpolicy, hnever]
    exact ⟨⟨fun _ => (reconcile_failing hends).parked hretry, fun _ => rfl⟩,
      fun hne => absurd rfl hne⟩

/-- The failure of a plain image build whose job is refused is on record when it is parked. -/
theorem plain_refusal_parked :
    let key : Key := ⟨"images", "web"⟩
    let o : Operator := {
      config := {}
      store := (({} : Store).addImageBuild plainImageBuild).inject .createJob (.rejection "denied") }
    (o.reconcile key ⟨0, 0⟩).result = some (.error (.cluster (.invalid "denied"))) ∧
      Parked key o.store (o.reconcile key ⟨0, 0⟩).operator.store (.cluster (.invalid "denied")) := by
  intro key o
  exact ⟨rfl, (failure_parked_iff o ⟨0, 0⟩ (b := plainImageBuild) rfl rfl).1.mp rfl⟩

/-- The refusal to remove a finalizer is parked as well, with nothing on record: the image build stays
marked for deletion and held. -/
theorem refused_release_unrecorded :
    let key : Key := ⟨"images", "web"⟩
    let o : Operator := {
      config := {}
      store := ((({} : Store).addImageBuild plainImageBuild).markForDeletion key).inject
        .removeFinalizer (.rejection "denied") }
    (o.reconcile key ⟨0, 0⟩).result = some (.error (.cluster (.invalid "denied"))) ∧
      ((o.reconcile key ⟨0, 0⟩).operator.failurePolicy plainImageBuild
        (.cluster (.invalid "denied"))).1 = .awaitChange ∧
      ((o.reconcile key ⟨0, 0⟩).operator.store.imageBuilds.get? key).map
        (fun b => (b.isBeingDeleted, b.hasFinalizer, b.recorded.phase)) =
          some (true, true, .pending) ∧
      ¬ FailureRecorded key (o.reconcile key ⟨0, 0⟩).operator.store := by
  intro key o
  refine ⟨rfl, rfl, rfl, ?_⟩
  rintro ⟨c, hc, hphase, -⟩
  cases hc
  cases hphase

end Controller

end ImageForge
