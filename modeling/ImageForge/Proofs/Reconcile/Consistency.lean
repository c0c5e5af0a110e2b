import ImageForge.Proofs.Reconcile.Creation
import ImageForge.Proofs.Reconcile.StatusHistory
import ImageForge.Proofs.Reconcile.Story

/-! The statuses of an image build that starts without one. Each fits the job that is stored and the job
that an invocation has read, as long as nobody else meddles. -/
namespace ImageForge.Controller

open Cluster ImageBuildStatus

variable {settings : BuilderSettings} {key : Key} {s t : Store} {w w' : World} {i : Invocation}
  {spec : ImageBuildSpec} {r : Request} {next : Answer r → Reconciliation} {b : ImageBuild}
  {job : Job}

/-- A turn in a run where only its own invocation writes the status of an image build and creates the
builder job, the spec stays, and a job stays ended as it has ended while it is there. -/
structure Orderly (settings : BuilderSettings) (key : Key) (w w' : World) : Prop where
  turn : Turn settings (KeepsStatus key) w w'
  spec : ∀ b b', w.store.imageBuilds.get? key = some b → w'.store.imageBuilds.get? key = some b' →
    b'.spec = b.spec
  created : ∀ job, w.store.jobs.get? (jobKey key) = none →
    w'.store.jobs.get? (jobKey key) = some job → Creates w key w'
  ended : ∀ job job', w.store.jobs.get? (jobKey key) = some job →
    w'.store.jobs.get? (jobKey key) = some job' → (jobState job).MayBecome (jobState job')

theorem Staged.not_pending (h : Staged settings w) {r' : Request} {next' : Answer r' → Reconciliation}
    {a : Answer r} {e : Event} (running : w.active key = some i) (pending : i.rest = .call r next)
    (he : Exchange.event? ⟨r, a⟩ = some e) : next a ≠ .call r' next' := by
  intro hp
  have hst := h running
  rw [pending] at hst
  obtain ⟨result, hdone⟩ := hst.over_of_event he
  cases hdone.symm.trans hp

/-- While an invocation goes on, it has just changed nothing. -/
theorem Staged.not_changed (h : Staged settings w) (hi : w'.active key = some i)
    (pending : i.rest = .call r next) : ¬ Patches w key w' ∧ ¬ Creates w key w' := by
  constructor
  · rintro ⟨running, hcall, -⟩
    rw [World.withActive_active_self] at hi
    cases hi
    exact h.not_pending running hcall rfl pending
  · rintro ⟨running, hcall, -⟩
    rw [World.withActive_active_self] at hi
    cases hi
    exact h.not_pending running hcall rfl pending

/-- What an invocation has found out about the job is still so, and fits the phase. -/
structure Informed (key : Key) (s : Store) (i : Invocation) : Prop where
  absent : sawJob key none ∈ i.heard → s.jobs.get? (jobKey key) = none
  fits : ∀ job b, sawJob key (some job) ∈ i.heard → s.imageBuilds.get? key = some b →
    b.recorded.phase.Fits (jobState job)
  present : ∀ job job', sawJob key (some job) ∈ i.heard → s.jobs.get? (jobKey key) = some job' →
    (jobState job).MayBecome (jobState job')

theorem Informed.kept (h : Informed key w.store i) (ho : Orderly settings key w w')
    (hkeeps : KeepsStatus key w.store w'.store) (hno : ¬ Creates w key w') :
    Informed key w'.store i where
  absent hsaw := by
    cases hj : w'.store.jobs.get? (jobKey key) with
    | none => rfl
    | some job => exact absurd (ho.created job (h.absent hsaw) hj) hno
  fits job b hsaw hb := by
    obtain ⟨c, hc, hcs⟩ := hkeeps b hb
    rw [hcs]
    exact h.fits job c hsaw hc
  present job job' hsaw hj := by
    cases hold : w.store.jobs.get? (jobKey key) with
    | none => exact absurd (ho.created job' hold hj) hno
    | some old => exact (h.present job old hsaw hold).trans (ho.ended old job' hold hj)

/-- The stored image build agrees with the builder job that is stored. -/
structure Agrees (spec : ImageBuildSpec) (key : Key) (s : Store) (b : ImageBuild) : Prop where
  specified : b.spec = spec
  once : (Conditions.types b.recorded.conditions).Nodup
  consistent : b.recorded.Consistent spec
  fits : ∀ job, s.jobs.get? (jobKey key) = some job → b.recorded.phase.Fits (jobState job)

theorem Agrees.told {read : ImageBuild} {f : Finding} (h : Agrees spec key s b)
    (hi : Informed key s i) (hb : s.imageBuilds.get? key = some b) (hread : b.recorded = read.recorded)
    (hspec : read.spec = spec) (hheard : i.heard = sawImageBuild key read :: f.heard key)
    (hf : f.Holds settings read) (now : Instant) :
    (Conditions.types (f.status key read now).conditions).Nodup ∧
      (f.status key read now).Consistent spec ∧
      ∀ job, s.jobs.get? (jobKey key) = some job →
        (f.status key read now).phase.Fits (jobState job) := by
  subst hspec
  have hfits : ∀ job, f = .observed job → read.recorded.phase.Fits (jobState job) := by
    rintro job rfl
    rw [← hread]
    exact hi.fits job b (hheard ▸ List.mem_cons_of_mem _ List.mem_cons_self) hb
  refine ⟨?_, Finding.status_consistent (hread ▸ h.consistent) hf hfits, ?_⟩
  · have hcount := (f.status_renews key read now).once (hread ▸ h.once)
    exact List.nodup_iff_count_le_one.mpr fun type => Nat.le_of_eq (hcount type)
  · intro job hjob
    have hsaw : ∀ found, sawJob key found ∈ f.heard key → sawJob key found ∈ i.heard :=
      fun found hm => hheard ▸ List.mem_cons_of_mem _ hm
    cases f with
    | absent | terminating _ =>
      have hkept := h.fits job hjob
      rw [hread] at hkept
      exact hkept
    | observed seen =>
      have hthere := hi.present seen job (hsaw _ List.mem_cons_self) hjob
      exact (Finding.observed_fits (hfits seen rfl)).kept hthere
    | refused _ _ | unbuildable _ =>
      cases (hi.absent (hsaw _ List.mem_cons_self)).symm.trans hjob

/-- The image build of a key, its job and what its invocation has read are in agreement. -/
structure Agreement (settings : BuilderSettings) (key : Key) (spec : ImageBuildSpec) (w : World) :
    Prop where
  tracked : Tracked settings key w
  stored : ∀ {b}, w.store.imageBuilds.get? key = some b → Agrees spec key w.store b
  read : ∀ {i b}, w.active key = some i → sawImageBuild key b ∈ i.heard → b.spec = spec
  informed : ∀ {i r next}, w.active key = some i → i.rest = .call r next → Informed key w.store i

namespace Agreement

theorem read_step (h : Agreement settings key spec w) (ho : Orderly settings key w w')
    (hi : w'.active key = some i) (hb : sawImageBuild key b ∈ i.heard) : b.spec = spec := by
  obtain hold | ⟨now, rfl⟩ | ⟨j, r, next, a, running, pending, answer, rfl⟩ :=
    ho.turn.active_inv hi
  · exact h.read hold hb
  · cases hb
  · rcases Stage.saw_answered answer hb with hb | hb
    · exact h.read running hb
    · exact (h.stored hb).specified

/-- What an invocation finds out now is so. -/
theorem informed_answered (h : Agreement settings key spec w) {a : Answer r}
    (hi : Informed key w.store i) (answer : w.store.answer r = some (a, t))
    (hsame : w.store.SameObjects t) :
    Informed key t ⟨i.now, i.heard ++ [⟨r, a⟩], next a⟩ where
  absent hsaw := by
    rw [hsame.jobs]
    rcases Stage.sawJob_answered answer hsaw with hsaw | hnow
    · exact hi.absent hsaw
    · exact hnow
  fits job b hsaw hb := by
    rw [hsame.imageBuilds] at hb
    rcases Stage.sawJob_answered answer hsaw with hsaw | hnow
    · exact hi.fits job b hsaw hb
    · exact (h.stored hb).fits job hnow
  present job job' hsaw hj := by
    rw [hsame.jobs] at hj
    rcases Stage.sawJob_answered answer hsaw with hsaw | hnow
    · exact hi.present job job' hsaw hj
    · cases hnow.symm.trans hj
      exact .refl _

theorem informed_step (h : Agreement settings key spec w) (ho : Orderly settings key w w')
    (hi : w'.active key = some i) (pending : i.rest = .call r next) : Informed key w'.store i := by
  obtain hold | ⟨now, rfl⟩ | ⟨j, r, next, a, running, hcall, answer, rfl⟩ :=
    ho.turn.active_inv hi
  · obtain ⟨hpatch, hcreate⟩ := h.tracked.staged.not_changed hi pending
    have hkeeps := (h.tracked.staged.patches_or_keeps ho.turn).resolve_left hpatch
    exact (h.informed hold pending).kept ho hkeeps hcreate
  · exact ⟨fun hsaw => (by cases hsaw), fun _ _ hsaw => (by cases hsaw),
      fun _ _ hsaw => (by cases hsaw)⟩
  · have hst := h.tracked.staged running
    rw [hcall] at hst
    exact h.informed_answered (h.informed running hcall) answer
      (hst.sameObjects_of_pending answer pending)

theorem stored_kept (h : Agreement settings key spec w) (ho : Orderly settings key w w')
    (hkeeps : KeepsStatus key w.store w'.store) (hb : w'.store.imageBuilds.get? key = some b) :
    Agrees spec key w'.store b := by
  obtain ⟨c, hc, hcs⟩ := hkeeps b hb
  have hold := h.stored hc
  refine ⟨(ho.spec c b hc hb).trans hold.specified, hcs ▸ hold.once, hcs ▸ hold.consistent, ?_⟩
  intro job hjob
  rw [hcs]
  cases hj : w.store.jobs.get? (jobKey key) with
  | some job' => exact (hold.fits job' hj).kept (ho.ended job' job hj hjob)
  | none =>
    -- The job has just been created, and that is done for a build that is not over.
    obtain ⟨running, pending, -⟩ := ho.created job hj hjob
    have hst := h.tracked.staged running
    rw [pending] at hst
    obtain ⟨read, hheard, -, -, unfinished, -⟩ := hst.creating_inv
    have hread := h.tracked.fresh running (hheard ▸ List.mem_cons_self) pending hc
    exact .unfinished (hread ▸ unfinished) _

/-- What an invocation stores agrees with the job. -/
theorem stored_patched (h : Agreement settings key spec w) (hp : Patches w key w')
    (hb : w'.store.imageBuilds.get? key = some b) : Agrees spec key w'.store b := by
  obtain ⟨running, pending, answer⟩ := hp
  have hst := h.tracked.staged running
  rw [pending] at hst
  obtain ⟨read, f, -, hheard, hf, rfl⟩ := hst.recording_inv
  have hsaw := hheard ▸ List.mem_cons_self
  obtain ⟨e, he, -⟩ | ⟨x, -, hsucc⟩ := Store.answer_cases answer
  · cases he
  · cases hsucc with
    | statusPatched _ stored =>
      cases hb.symm.trans (Table.get?_put_self _ _ _)
      have hold := h.stored stored
      obtain ⟨honce, hconsistent, hfits⟩ := hold.told (h.informed running pending) stored
        (h.tracked.fresh running hsaw pending stored) (h.read running hsaw) hheard hf _
      exact ⟨hold.specified, honce, hconsistent, hfits⟩

theorem step (h : Agreement settings key spec w) (ho : Orderly settings key w w') :
    Agreement settings key spec w' where
  tracked := h.tracked.step ho.turn
  read hi hb := h.read_step ho hi hb
  informed hi pending := h.informed_step ho hi pending
  stored hb := by
    rcases h.tracked.staged.patches_or_keeps ho.turn with hpatch | hkeeps
    · exact h.stored_patched hpatch hb
    · exact h.stored_kept ho hkeeps hb

/-- The image build and its job stay in agreement through every run. -/
theorem run (h : Agreement settings key spec w)
    (hr : Relation.ReflTransGen (Orderly settings key) w w') : Agreement settings key spec w' := by
  induction hr with
  | refl => exact h
  | tail _ ho ih => exact ih.step ho

theorem initial (hw : Staged settings w) (hb : w.store.imageBuilds.get? key = some b)
    (hnew : b.status = none) (hfree : w.active key = none) :
    Agreement settings key b.spec w where
  tracked := by
    refine ⟨hw, ?_⟩
    intro i _ _ _ _ hi
    cases hfree.symm.trans hi
  read hi := by cases hfree.symm.trans hi
  informed hi := by cases hfree.symm.trans hi
  stored hc := by
    cases hb.symm.trans hc
    have hrecorded : b.recorded = {} := by
      rw [ImageBuild.recorded, hnew]
      rfl
    refine ⟨rfl, ?_, ?_, ?_⟩
    · rw [hrecorded]
      exact List.nodup_nil
    · rw [hrecorded]
      exact .pending rfl (by simp) rfl rfl rfl rfl
    · intro job _
      rw [hrecorded]
      exact .unfinished (by decide) _

end Agreement

/-- As long as its status is written and its builder job is created only by its own invocations, its
spec stays and the job stays ended as it has ended, every status of an image build that has started
without one is consistent, and has no two records of one condition. -/
theorem status_consistent_throughout {w₀ : World}
    (hw : Reaches settings (fun _ _ => True) (.idle s) w₀)
    (hb : w₀.store.imageBuilds.get? key = some b) (hnew : b.status = none)
    (hfree : w₀.active key = none) (hr : Relation.ReflTransGen (Orderly settings key) w₀ w) :
    ∀ c, w.store.imageBuilds.get? key = some c →
      c.recorded.Consistent b.spec ∧ (Conditions.types c.recorded.conditions).Nodup := by
  intro c hc
  have hstart := Agreement.initial ((Staged.idle s).run hw) hb hnew hfree
  have hagrees := (hstart.run hr).stored hc
  exact ⟨hagrees.consistent, hagrees.once⟩

theorem Orderly.of_stored {b' : ImageBuild} {job' : Job}
    (hs : Turn settings (KeepsStatus key) w w') (hb : w.store.imageBuilds.get? key = some b)
    (hb' : w'.store.imageBuilds.get? key = some b') (hspec : b'.spec = b.spec)
    (hj : w.store.jobs.get? (jobKey key) = some job)
    (hj' : w'.store.jobs.get? (jobKey key) = some job')
    (hended : (jobState job).MayBecome (jobState job')) : Orderly settings key w w' where
  turn := hs
  spec _ _ hc hc' := by
    cases hb.symm.trans hc
    cases hb'.symm.trans hc'
    exact hspec
  created _ hnone := by cases hj.symm.trans hnone
  ended _ _ hk hk' := by
    cases hj.symm.trans hk
    cases hj'.symm.trans hk'
    exact hended

theorem Orderly.reported (status : JobStatus) (hb : w.store.imageBuilds.get? key = some b)
    (hj : w.store.jobs.get? (jobKey key) = some job)
    (hended : (jobState job).MayBecome (jobState { job with status := some status })) :
    Orderly settings key w ⟨w.store.setJobStatus (jobKey key) status, w.active⟩ := by
  have hset : w.store.setJobStatus (jobKey key) status = { w.store with
      jobs := w.store.jobs.put (jobKey key) { job with status := some status } } := by
    simp only [Store.setJobStatus, hj]
  rw [hset]
  exact .of_stored (.outside (.of_eq rfl)) hb hb rfl hj (Table.get?_put_self _ _ _) hended

theorem success_recorded :
    ∃ w c, Relation.ReflTransGen (Orderly {} ⟨"images", "web"⟩) (.idle startedStore) w ∧
      w.store.imageBuilds.get? ⟨"images", "web"⟩ = some c ∧ c.recorded.phase = .succeeded := by
  let key : Key := ⟨"images", "web"⟩
  have hactive := fun w i => World.withActive_active_self w key (some i)
  have hbegun : Relation.ReflTransGen (Orderly {} key) (.idle startedStore) _ := .single (.of_stored
    (@Turn.begin {} _ (.idle startedStore) key ⟨0, 0⟩ rfl) rfl rfl rfl rfl rfl (.refl _))
  have hread := hbegun.tail (.of_stored (.call (hactive _ _) rfl rfl) rfl rfl rfl rfl rfl (.refl _))
  have hlooked := hread.tail (.of_stored (.call (hactive _ _) rfl rfl) rfl rfl rfl rfl rfl (.refl _))
  have htold := hlooked.tail (.of_stored (.call (hactive _ _) rfl rfl) rfl rfl rfl rfl rfl (.refl _))
  have hleft := htold.tail (.of_stored (.leave _ key) rfl rfl rfl rfl rfl (.refl _))
  have hreported := hleft.tail (.reported { succeeded := some 1 } rfl rfl (.running _ _))
  have hbegun := hreported.tail (.of_stored
    (@Turn.begin {} _ _ key ⟨9, 0⟩ rfl) rfl rfl rfl rfl rfl (.refl _))
  have hread := hbegun.tail (.of_stored (.call (hactive _ _) rfl rfl) rfl rfl rfl rfl rfl (.refl _))
  have hlooked := hread.tail (.of_stored (.call (hactive _ _) rfl rfl) rfl rfl rfl rfl rfl (.refl _))
  have htold := hlooked.tail (.of_stored (.call (hactive _ _) rfl rfl) rfl rfl rfl rfl rfl (.refl _))
  exact ⟨_, _, htold, rfl, rfl⟩

/-- The status of a plain image build is consistent when its job has succeeded. -/
theorem plain_success_consistent :
    ∃ w c, Relation.ReflTransGen (Orderly {} ⟨"images", "web"⟩) (.idle startedStore) w ∧
      w.store.imageBuilds.get? ⟨"images", "web"⟩ = some c ∧ c.recorded.phase = .succeeded ∧
      c.recorded.Consistent plainImageBuild.spec ∧
      (Conditions.types c.recorded.conditions).Nodup := by
  obtain ⟨w, c, hr, hc, hphase⟩ := success_recorded
  have hstored : (World.idle startedStore).store.imageBuilds.get? ⟨"images", "web"⟩ =
      some (asAdded plainImageBuild ({} : Store).nextVersion) := rfl
  exact ⟨w, c, hr, hc, hphase, status_consistent_throughout .refl hstored rfl rfl hr c hc⟩

end ImageForge.Controller
