import ImageForge.Controller.Reconcile
import ImageForge.Proofs.Cluster.Answer
import ImageForge.Proofs.Reconcile.Construction

/-! The points that an invocation of the reconciler passes, each with what it has been told so far. -/
namespace ImageForge.Controller

open Cluster Reconciliation

theorem ownedBuilderJob_key {b : ImageBuild} {settings : BuilderSettings} {job : Job} {key : Key}
    (h : ownedBuilderJob b settings = .ok job) (hk : snapshotKey b = key) :
    (⟨key.ns, job.metadata.displayName⟩ : Key) = jobKey key := by
  obtain ⟨name, _, _, hn, -, -, hm⟩ := ownedBuilderJob_metadata h
  have hkey := congrArg Key.name hk
  simp only [snapshotKey, Metadata.displayName, hn] at hkey
  subst hkey
  simp [jobKey, Metadata.displayName, hm]

/-- The image build that the invocation of a key has read. -/
def sawImageBuild (key : Key) (b : ImageBuild) : Exchange := ⟨.getImageBuild key, .ok (some b)⟩

def sawJob (key : Key) (job : Option Job) : Exchange := ⟨.getJob (jobKey key), .ok job⟩

/-- What is found out about the builder job of an image build that is not being deleted, when the
status is to tell it. -/
inductive Finding
  | absent
  | terminating (job : Job)
  | observed (job : Job)
  | refused (job : Job) (why : String)
  | unbuildable (e : JobError)

namespace Finding

/-- The answers that the finding rests on, after the image build was read. -/
def heard (key : Key) : Finding → List Exchange
  | .absent | .unbuildable _ => [sawJob key none]
  | .terminating job | .observed job => [sawJob key (some job)]
  | .refused job why =>
    [sawJob key none, ⟨.createJob key.ns job, .error (.invalid why)⟩]

/-- When the answers amount to the finding. -/
def Holds (settings : BuilderSettings) (b : ImageBuild) : Finding → Prop
  | .absent => (b.status.getD {}).phase.isTerminal
  | .terminating job => job.metadata.isBeingDeleted
  | .observed job => ¬ job.metadata.isBeingDeleted
  | .refused job _ =>
    ¬ (b.status.getD {}).phase.isTerminal ∧ ownedBuilderJob b settings = .ok job
  | .unbuildable e =>
    ¬ (b.status.getD {}).phase.isTerminal ∧ ownedBuilderJob b settings = .error e

def status (key : Key) (b : ImageBuild) (now : Instant) (f : Finding) : ImageBuildStatus :=
  let status := (b.status.getD {}).refresh b.metadata.generation now
  match f with
  | .absent | .terminating _ => status
  | .observed job => status.jobObserved b (builderJobName key.name) (jobState job) now
  | .refused _ why => status.jobRejected why now
  | .unbuildable e => status.jobNotConstructed e now

theorem eq_read {key : Key} {b c : ImageBuild} {f : Finding}
    (hsaw : sawImageBuild key b ∈ sawImageBuild key c :: f.heard key) : b = c := by
  rcases List.mem_cons.mp hsaw with hsaw | hsaw
  · cases hsaw
    rfl
  · cases f <;> simp [heard, sawImageBuild, sawJob] at hsaw

def outcome : Finding → Except ControllerError Verdict
  | .absent | .observed _ => .ok { action := .awaitChange }
  | .terminating _ => .ok { action := .requeue terminationPoll }
  | .refused _ why => .error (.cluster (.invalid why))
  | .unbuildable e => .error (.jobConstruction e)

end Finding

/-- How an invocation goes on from the image build that it has read. -/
def reconcileRead (settings : BuilderSettings) (key : Key) (b : ImageBuild) (now : Instant) :
    Reconciliation :=
  if b.isBeingDeleted then reconcileDeleted key b
  else if !b.hasFinalizer then
    ask (.addFinalizer b ImageBuild.operatorFinalizer) fun _ => settle (.requeue settleDelay)
  else reconcileGuarded settings key b now

def reconcileJobless (settings : BuilderSettings) (key : Key) (b : ImageBuild) (now : Instant) :
    Reconciliation :=
  let status := b.status.getD {}
  if status.phase.isTerminal then
    persist key status (Finding.absent.status key b now) (settle .awaitChange)
  else startJob settings key b status (status.refresh b.metadata.generation now) now

section

variable {settings : BuilderSettings} {b : ImageBuild} {job : Job} {e : JobError}

theorem reconcileRead_of_guarded (key : Key) (alive : ¬ b.isBeingDeleted) (held : b.hasFinalizer)
    (now : Instant) :
    reconcileRead settings key b now = reconcileGuarded settings key b now := by
  rw [reconcileRead, if_neg alive, if_neg (by simpa using held)]

theorem reconcileJobless_of_terminal (key : Key) (terminal : (b.status.getD {}).phase.isTerminal)
    (now : Instant) :
    reconcileJobless settings key b now = persist key (b.status.getD {})
      (Finding.absent.status key b now) (.done Finding.absent.outcome) := if_pos terminal

theorem reconcileJobless_of_unbuildable (key : Key)
    (unfinished : ¬ (b.status.getD {}).phase.isTerminal)
    (unbuildable : ownedBuilderJob b settings = .error e) (now : Instant) :
    reconcileJobless settings key b now = persist key (b.status.getD {})
      ((Finding.unbuildable e).status key b now) (.done (Finding.unbuildable e).outcome) := by
  rw [reconcileJobless, if_neg unfinished, startJob, unbuildable]
  rfl

theorem reconcileJobless_of_built (key : Key) (unfinished : ¬ (b.status.getD {}).phase.isTerminal)
    (built : ownedBuilderJob b settings = .ok job) (now : Instant) :
    ∃ next, reconcileJobless settings key b now = .call (.createJob key.ns job) next ∧
      next (.ok ()) = settle (.requeue settleDelay) := by
  rw [reconcileJobless, if_neg unfinished, startJob, built]
  exact ⟨_, rfl, rfl⟩

end

/-- The points of an invocation, with the calls answered so far and the rest of its program. At each
point but the last one call is pending, and `rest` says how the program goes on from its answer. -/
inductive Stage (settings : BuilderSettings) (key : Key) (now : Instant) :
    List Exchange → Reconciliation → Prop
  | start {next} (rest : reconcile settings key now = .call (.getImageBuild key) next) :
      Stage settings key now [] (.call (.getImageBuild key) next)
  | adding {b next} (alive : ¬ b.isBeingDeleted) (bare : ¬ b.hasFinalizer)
      (rest : ask (.addFinalizer b ImageBuild.operatorFinalizer) (fun _ =>
        settle (.requeue settleDelay)) = .call (.addFinalizer b ImageBuild.operatorFinalizer) next) :
      Stage settings key now [sawImageBuild key b]
        (.call (.addFinalizer b ImageBuild.operatorFinalizer) next)
  | guarded {b next} (alive : ¬ b.isBeingDeleted) (held : b.hasFinalizer)
      (rest : reconcileGuarded settings key b now = .call (.getJob (jobKey key)) next) :
      Stage settings key now [sawImageBuild key b] (.call (.getJob (jobKey key)) next)
  | creating {b job next} (alive : ¬ b.isBeingDeleted) (held : b.hasFinalizer)
      (unfinished : ¬ (b.status.getD {}).phase.isTerminal)
      (built : ownedBuilderJob b settings = .ok job)
      (rest : startJob settings key b (b.status.getD {})
        ((b.status.getD {}).refresh b.metadata.generation now) now =
          .call (.createJob key.ns job) next) :
      Stage settings key now [sawImageBuild key b, sawJob key none]
        (.call (.createJob key.ns job) next)
  | recording {b f next} (alive : ¬ b.isBeingDeleted) (held : b.hasFinalizer)
      (found : Finding.Holds settings b f) (news : b.status.getD {} ≠ f.status key b now)
      (rest : ask (.patchStatus key (f.status key b now)) (fun _ => .done f.outcome) =
        .call (.patchStatus key (f.status key b now)) next) :
      Stage settings key now (sawImageBuild key b :: f.heard key)
        (.call (.patchStatus key (f.status key b now)) next)
  | doomed {b next} (deleted : b.isBeingDeleted) (held : b.hasFinalizer)
      (rest : reconcileDeleted key b = .call (.getJob (jobKey key)) next) :
      Stage settings key now [sawImageBuild key b] (.call (.getJob (jobKey key)) next)
  | removing {b job next} (deleted : b.isBeingDeleted) (held : b.hasFinalizer)
      (alive : ¬ job.metadata.isBeingDeleted)
      (rest : ask (.deleteJob (jobKey key)) (fun _ => settle (.requeue terminationPoll)) =
        .call (.deleteJob (jobKey key)) next) :
      Stage settings key now [sawImageBuild key b, sawJob key (some job)]
        (.call (.deleteJob (jobKey key)) next)
  | releasing {b next} (deleted : b.isBeingDeleted) (held : b.hasFinalizer)
      (rest : ask (.removeFinalizer b ImageBuild.operatorFinalizer) (fun _ =>
        .done (.ok { action := .awaitChange, released := true })) =
          .call (.removeFinalizer b ImageBuild.operatorFinalizer) next) :
      Stage settings key now [sawImageBuild key b, sawJob key none]
        (.call (.removeFinalizer b ImageBuild.operatorFinalizer) next)
  | over (heard : List Exchange) (result : Except ControllerError Verdict) :
      Stage settings key now heard (.done result)

/-- The changes that the invocation of a key may make. -/
def ownEvents (key : Key) : List Event :=
  [.finalizerAdded key, .finalizerRemoved key, .statusPatched key, .jobCreated (jobKey key),
    .jobDeleted (jobKey key)]

namespace Stage

variable {settings : BuilderSettings} {key : Key} {now : Instant} {heard : List Exchange}
  {r : Request} {next : Answer r → Reconciliation}

theorem persisted {b : ImageBuild} {f : Finding} (alive : ¬ b.isBeingDeleted)
    (held : b.hasFinalizer) (found : Finding.Holds settings b f) :
    Stage settings key now (sawImageBuild key b :: f.heard key)
      (persist key (b.status.getD {}) (f.status key b now) (.done f.outcome)) := by
  unfold persist
  split
  · exact .over _ _
  next news => exact .recording alive held found news rfl

theorem imageBuild_read (b : ImageBuild) :
    Stage settings key now [sawImageBuild key b] (reconcileRead settings key b now) := by
  by_cases hd : b.isBeingDeleted
  · rw [reconcileRead, if_pos hd]
    by_cases hf : b.hasFinalizer
    · obtain ⟨next, hr⟩ : ∃ next, reconcileDeleted key b = .call (.getJob (jobKey key)) next := by
        rw [reconcileDeleted, if_neg (by simpa using hf)]
        exact ⟨_, rfl⟩
      rw [hr]
      exact .doomed hd hf hr
    · rw [reconcileDeleted, if_pos (by simpa using hf)]
      exact .over _ _
  · by_cases hf : b.hasFinalizer
    · rw [reconcileRead_of_guarded key hd hf]
      exact .guarded hd hf rfl
    · rw [reconcileRead, if_neg hd, if_pos (by simpa using hf)]
      exact .adding hd hf rfl

theorem job_missing {b : ImageBuild} (alive : ¬ b.isBeingDeleted) (held : b.hasFinalizer) :
    Stage settings key now [sawImageBuild key b, sawJob key none]
      (reconcileJobless settings key b now) := by
  by_cases ht : (b.status.getD {}).phase.isTerminal
  · rw [reconcileJobless_of_terminal key ht]
    exact persisted (f := .absent) alive held ht
  · cases hj : ownedBuilderJob b settings with
    | ok job =>
      obtain ⟨next, hr, -⟩ := reconcileJobless_of_built key ht hj now
      rw [hr]
      refine .creating alive held ht hj ?_
      rw [← hr, reconcileJobless, if_neg ht]
    | error e =>
      rw [reconcileJobless_of_unbuildable key ht hj]
      exact persisted (f := .unbuildable e) alive held ⟨ht, hj⟩

theorem job_read {b : ImageBuild} (alive : ¬ b.isBeingDeleted) (held : b.hasFinalizer)
    (job : Job) :
    Stage settings key now [sawImageBuild key b, sawJob key (some job)]
      (if job.metadata.isBeingDeleted then
        persist key (b.status.getD {}) ((Finding.terminating job).status key b now)
          (settle (.requeue terminationPoll))
      else persist key (b.status.getD {}) ((Finding.observed job).status key b now)
        (settle .awaitChange)) := by
  by_cases hd : job.metadata.isBeingDeleted
  · rw [if_pos hd]
    exact persisted (f := .terminating job) alive held hd
  · rw [if_neg hd]
    exact persisted (f := .observed job) alive held hd

theorem doomed_job_read {b : ImageBuild} (deleted : b.isBeingDeleted) (held : b.hasFinalizer)
    (job : Job) :
    Stage settings key now [sawImageBuild key b, sawJob key (some job)]
      (if job.metadata.isBeingDeleted then settle (.requeue terminationPoll)
      else ask (.deleteJob (jobKey key)) fun _ => settle (.requeue terminationPoll)) := by
  by_cases hd : job.metadata.isBeingDeleted
  · rw [if_pos hd]
    exact .over _ _
  · rw [if_neg hd]
    exact .removing deleted held hd rfl

/-- Any answer to the pending call leads to a point of the invocation again. -/
theorem answered (h : Stage settings key now heard (.call r next)) (a : Answer r) :
    Stage settings key now (heard ++ [⟨r, a⟩]) (next a) := by
  cases h with
  | start rest =>
    cases rest
    cases a with
    | error e => exact .over _ _
    | ok found =>
      cases found with
      | none => exact .over _ _
      | some b => exact imageBuild_read b
  | guarded alive held rest =>
    cases rest
    cases a with
    | error e => exact .over _ _
    | ok found =>
      cases found with
      | none => exact job_missing alive held
      | some job => exact job_read alive held job
  | creating alive held unfinished built rest =>
    rw [startJob, built] at rest
    cases rest
    cases a with
    | ok _ => exact .over _ _
    | error e =>
      cases e with
      | invalid why => exact persisted (f := .refused _ why) alive held ⟨unfinished, built⟩
      | failure _ | notFound _ | conflict _ | alreadyExists _ | serialization | api _ =>
        exact .over _ _
  | doomed deleted held rest =>
    rw [reconcileDeleted, if_neg (by simpa using held)] at rest
    cases rest
    cases a with
    | error e => exact .over _ _
    | ok found =>
      cases found with
      | none => exact .releasing deleted held rfl
      | some job => exact doomed_job_read deleted held job
  | adding _ _ rest | recording _ _ _ _ rest | removing _ _ _ rest | releasing _ _ rest =>
    cases rest
    cases a <;> exact .over _ _

theorem first (settings : BuilderSettings) (key : Key) (now : Instant) :
    Stage settings key now [] (reconcile settings key now) := .start rfl

/-- A call that has changed something is the last one. -/
theorem over_of_event (h : Stage settings key now heard (.call r next)) {a : Answer r}
    {e : Event} (he : Exchange.event? ⟨r, a⟩ = some e) : ∃ result, next a = .done result := by
  cases a with
  | error _ => cases he
  | ok x =>
    cases h with
    | start _ | guarded _ _ _ | doomed _ _ _ => cases he
    | creating _ _ _ built rest =>
      rw [startJob, built] at rest
      cases rest
      exact ⟨_, rfl⟩
    | adding _ _ rest | recording _ _ _ _ rest | removing _ _ _ rest | releasing _ _ rest =>
      cases rest
      exact ⟨_, rfl⟩

/-- An invocation that goes on after an answer has changed nothing: a change would have been its last
call. -/
theorem sameObjects_of_pending (h : Stage settings key now heard (.call r next)) {s t : Store}
    {a : Answer r} (ha : s.answer r = some (a, t)) {r' : Request}
    {next' : Answer r' → Reconciliation} (hp : next a = .call r' next') : s.SameObjects t := by
  refine Store.answer_sameObjects ha ?_
  cases he : Exchange.event? ⟨r, a⟩ with
  | none => rfl
  | some e =>
    obtain ⟨result, hdone⟩ := h.over_of_event he
    cases hp.symm.trans hdone

/-- An image build that is read now is the stored one. -/
theorem saw_answered {s t : Store} {a : Answer r} {b : ImageBuild}
    (ha : s.answer r = some (a, t)) (hb : sawImageBuild key b ∈ heard ++ [⟨r, a⟩]) :
    sawImageBuild key b ∈ heard ∨ s.imageBuilds.get? key = some b := by
  rcases List.mem_append.mp hb with hb | hb
  · exact Or.inl hb
  · cases List.mem_singleton.mp hb
    obtain ⟨e, he, -⟩ | ⟨x, hx, hsucc⟩ := Store.answer_cases ha
    · cases he
    · cases hx
      cases hsucc with
      | imageBuildRead stored => exact Or.inr stored

theorem sawJob_answered {s t : Store} {a : Answer r} {job : Option Job}
    (ha : s.answer r = some (a, t)) (hj : sawJob key job ∈ heard ++ [⟨r, a⟩]) :
    sawJob key job ∈ heard ∨ s.jobs.get? (jobKey key) = job := by
  rcases List.mem_append.mp hj with hj | hj
  · exact Or.inl hj
  · cases List.mem_singleton.mp hj
    obtain ⟨e, he, -⟩ | ⟨x, hx, hsucc⟩ := Store.answer_cases ha
    · cases he
    · cases hx
      cases hsucc with
      | jobRead stored => exact Or.inr stored

def Keyed (key : Key) (heard : List Exchange) : Prop :=
  ∀ b, sawImageBuild key b ∈ heard → snapshotKey b = key

theorem Keyed.nil (key : Key) : Keyed key [] := by
  intro b hb
  cases hb

theorem Keyed.answered {s t : Store} {a : Answer r} (hk : Keyed key heard) (hs : s.WellKeyed)
    (ha : s.answer r = some (a, t)) : Keyed key (heard ++ [⟨r, a⟩]) := by
  intro b hb
  rcases saw_answered ha hb with hb | hb
  · exact hk b hb
  · exact hs key b hb

theorem target_eq (h : Stage settings key now heard (.call r next)) (hk : Keyed key heard)
    {k : Key} (ht : r.target? = some k) : k = key := by
  cases h with
  | start _ | guarded _ _ _ | creating _ _ _ _ _ | doomed _ _ _ | removing _ _ _ _ => cases ht
  | adding _ _ _ | releasing _ _ _ =>
    cases ht
    exact hk _ List.mem_cons_self
  | recording _ _ _ _ _ =>
    cases ht
    rfl

theorem reading_inv {k : Key} {next : Answer (.getImageBuild k) → Reconciliation}
    (h : Stage settings key now heard (.call (.getImageBuild k) next)) : heard = [] := by
  cases h with
  | start _ => rfl

theorem looking_inv {k : Key} {next : Answer (.getJob k) → Reconciliation}
    (h : Stage settings key now heard (.call (.getJob k) next)) :
    ∃ b, heard = [sawImageBuild key b] ∧ b.hasFinalizer ∧ k = jobKey key := by
  cases h with
  | guarded _ held _ | doomed _ held _ => exact ⟨_, rfl, held, rfl⟩

theorem removing_inv {k : Key} {next : Answer (.deleteJob k) → Reconciliation}
    (h : Stage settings key now heard (.call (.deleteJob k) next)) :
    ∃ b job, heard = [sawImageBuild key b, sawJob key (some job)] ∧ b.isBeingDeleted ∧
      b.hasFinalizer ∧ k = jobKey key := by
  cases h with
  | removing deleted held _ _ => exact ⟨_, _, rfl, deleted, held, rfl⟩

theorem creating_inv {ns : String} {job : Job} {next : Answer (.createJob ns job) → Reconciliation}
    (h : Stage settings key now heard (.call (.createJob ns job) next)) :
    ∃ b, heard = [sawImageBuild key b, sawJob key none] ∧ ¬ b.isBeingDeleted ∧ b.hasFinalizer ∧
      ¬ (b.status.getD {}).phase.isTerminal ∧ ownedBuilderJob b settings = .ok job ∧
      ns = key.ns := by
  cases h with
  | creating alive held unfinished built _ =>
    exact ⟨_, rfl, alive, held, unfinished, built, rfl⟩

theorem releasing_inv {b : ImageBuild} {f : String}
    {next : Answer (.removeFinalizer b f) → Reconciliation}
    (h : Stage settings key now heard (.call (.removeFinalizer b f) next)) :
    heard = [sawImageBuild key b, sawJob key none] ∧ b.isBeingDeleted ∧ b.hasFinalizer ∧
      f = ImageBuild.operatorFinalizer := by
  cases h with
  | releasing deleted held _ => exact ⟨rfl, deleted, held, rfl⟩

theorem recording_inv {k : Key} {status : ImageBuildStatus}
    {next : Answer (.patchStatus k status) → Reconciliation}
    (h : Stage settings key now heard (.call (.patchStatus k status) next)) :
    ∃ b f, k = key ∧ heard = sawImageBuild key b :: Finding.heard key f ∧
      Finding.Holds settings b f ∧ status = Finding.status key b now f := by
  cases h with
  | recording _ _ found _ _ => exact ⟨_, _, rfl, rfl, found, rfl⟩

theorem adding_inv (h : Stage settings key now heard (.call r next)) {b : ImageBuild} {f : String}
    (hr : r = .addFinalizer b f) : f = ImageBuild.operatorFinalizer := by
  cases h with
  | adding _ _ _ =>
    cases hr
    rfl
  | start _ | guarded _ _ _ | creating _ _ _ _ _ | recording _ _ _ _ _ | doomed _ _ _
  | removing _ _ _ _ | releasing _ _ _ => cases hr

theorem created_key {ns : String} {job : Job} {next : Answer (.createJob ns job) → Reconciliation}
    (h : Stage settings key now heard (.call (.createJob ns job) next))
    (hk : Keyed key heard) : (⟨ns, job.metadata.displayName⟩ : Key) = jobKey key := by
  obtain ⟨b, rfl, -, -, -, built, rfl⟩ := h.creating_inv
  exact ownedBuilderJob_key built (hk b List.mem_cons_self)

theorem event_mem_ownEvents (h : Stage settings key now heard (.call r next))
    (hk : Keyed key heard) {e : Event} (he : r.event? = some e) : e ∈ ownEvents key := by
  cases h with
  | start _ | guarded _ _ _ | doomed _ _ _ => cases he
  | adding _ _ _ | releasing _ _ _ =>
    cases he
    rw [hk _ List.mem_cons_self]
    simp [ownEvents]
  | creating alive held unfinished built rest =>
    cases he
    rw [created_key (.creating alive held unfinished built rest) hk]
    simp [ownEvents]
  | recording _ _ _ _ _ | removing _ _ _ _ =>
    cases he
    simp [ownEvents]

end Stage

end ImageForge.Controller
