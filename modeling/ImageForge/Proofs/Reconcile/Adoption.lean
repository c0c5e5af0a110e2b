import ImageForge.Proofs.Reconcile.Takeover

/-! Which builder jobs an invocation acts on: whatever job it finds under the name. Where jobs come from
invocations only, and job names are distinct, that is its own. -/
namespace ImageForge.Controller

open Cluster

/-- The job has an owner with the uid of the image build. -/
def BelongsTo (b : ImageBuild) (job : Job) : Prop :=
  ∃ uid, b.metadata.uid = some uid ∧ job.isOwnedBy uid

/-- An image build may be added when, besides, no other one has its job name. -/
structure Apart (s : Store) (b : ImageBuild) : Prop extends Admitted s b where
  alone : ∀ k c, s.imageBuilds.get? k = some c → jobKey k ≠ jobKey (addedKey b)

def DistinctJobKeys (s : Store) : Prop :=
  ∀ k k' b b', s.imageBuilds.get? k = some b → s.imageBuilds.get? k' = some b' →
    jobKey k = jobKey k' → k = k'

variable {settings : BuilderSettings} {s t : Store} {w w' : World} {key : Key} {i : Invocation}
  {b : ImageBuild} {job : Job} {r : Request} {a : Answer r}

theorem DistinctJobKeys.of_noNewImageBuild (h : DistinctJobKeys s) (ht : s.NoNewImageBuild t) :
    DistinctJobKeys t := by
  intro k k' b b' hb hb' hk
  obtain ⟨c, hc, -⟩ := ht k b hb
  obtain ⟨c', hc', -⟩ := ht k' b' hb'
  exact h k k' c c' hc hc' hk

theorem DistinctJobKeys.added (h : DistinctJobKeys s) (hb : Apart s b) :
    DistinctJobKeys (s.addImageBuild b) := by
  have hcases : ∀ k c, (s.addImageBuild b).imageBuilds.get? k = some c →
      k = addedKey b ∨ s.imageBuilds.get? k = some c := by
    intro k c hc
    rw [Store.addImageBuild_imageBuilds, Table.get?_put] at hc
    split at hc
    next hk => exact Or.inl hk
    next => exact Or.inr hc
  intro k k' c c' hc hc' hk
  obtain rfl | hold := hcases k c hc <;> obtain rfl | hold' := hcases k' c' hc'
  · rfl
  · exact absurd hk.symm (hb.alone k' c' hold')
  · exact absurd hk (hb.alone k c hold)
  · exact h k k' c c' hold hold' hk

theorem DistinctJobKeys.turn (h : DistinctJobKeys w.store)
    (hs : Turn settings (Outside Apart) w w') : DistinctJobKeys w'.store := by
  cases hs with
  | begin _ _ | leave _ => exact h
  | call _ _ answer => exact h.of_noNewImageBuild (Store.answer_noNewImageBuild answer)
  | outside change =>
    obtain hold | ⟨b, hb, rfl⟩ := change.noNewImageBuild
    · exact h.of_noNewImageBuild hold
    · exact h.added hb

theorem Owned.belongsTo (h : Owned s (jobKey key) job) (hd : DistinctJobKeys s)
    (hb : s.imageBuilds.get? key = some b) : BelongsTo b job := by
  obtain ⟨key', b', o, hb', -, hk, -, -, howners, hu⟩ := h
  cases hd key key' b b' hb hb' hk
  cases hb.symm.trans hb'
  exact ⟨o.uid, hu, (isOwnedBy_iff howners).mpr rfl⟩

/-- Whatever job an invocation has found belongs to the image build that it has read. -/
structure SelfMinded (settings : BuilderSettings) (w : World) : Prop extends
    Accounted settings w where
  jobKeys : DistinctJobKeys w.store
  found : ∀ {key i b job}, w.active key = some i → sawImageBuild key b ∈ i.heard →
    sawJob key (some job) ∈ i.heard → BelongsTo b job

theorem SelfMinded.empty (settings : BuilderSettings) : SelfMinded settings (.idle {}) where
  toAccounted := Accounted.empty settings
  jobKeys := fun _ _ _ _ h => (by cases h)
  found := fun h => (by cases h)

/-- The job that is stored while an invocation knows a guarded image build belongs to that one. -/
theorem SelfMinded.stored_belongsTo {next : Answer r → Reconciliation} (h : SelfMinded settings w)
    (running : w.active key = some i) (pending : i.rest = .call r next)
    (saw : sawImageBuild key b ∈ i.heard) (held : b.hasFinalizer)
    (stored : w.store.jobs.get? (jobKey key) = some job) : BelongsTo b job := by
  obtain ⟨c, hc, hcb⟩ := h.current running b r next saw held pending
  obtain ⟨uid, hu, howned⟩ :=
    (h.owned _ (Table.mem_of_get? stored)).belongsTo h.jobKeys hc
  have hcu : c.metadata.uid = b.metadata.uid := congrArg (·.metadata.uid) hcb
  exact ⟨uid, hcu.symm.trans hu, howned⟩

theorem SelfMinded.found_answered {next : Answer r → Reconciliation} (h : SelfMinded settings w)
    (running : w.active key = some i) (pending : i.rest = .call r next)
    (answer : w.store.answer r = some (a, t)) (sawBuild : sawImageBuild key b ∈ i.heard ++ [⟨r, a⟩])
    (sawItsJob : sawJob key (some job) ∈ i.heard ++ [⟨r, a⟩]) : BelongsTo b job := by
  have hst := h.stage running
  rw [pending] at hst
  obtain hjob | hjob := List.mem_append.mp sawItsJob
  · obtain hb | hb := List.mem_append.mp sawBuild
    · exact h.found running hb hjob
    · cases List.mem_singleton.mp hb
      rw [hst.reading_inv] at hjob
      cases hjob
  · cases List.mem_singleton.mp hjob
    obtain ⟨c, hheard, held, -⟩ := hst.looking_inv
    have hstored : w.store.jobs.get? (jobKey key) = some job :=
      (Stage.sawJob_answered answer sawItsJob).resolve_left
        (by simp [hheard, sawImageBuild, sawJob])
    have hc : sawImageBuild key c ∈ i.heard := by
      rw [hheard]
      exact List.mem_cons_self
    obtain rfl : b = c := by simpa [hheard, sawImageBuild] using sawBuild
    exact h.stored_belongsTo running pending hc held hstored

theorem SelfMinded.step (h : SelfMinded settings w) (hs : Turn settings (Outside Apart) w w') :
    SelfMinded settings w' where
  toAccounted := h.toAccounted.step
    (hs.mono fun _ _ hout => hout.mono fun _ _ hb => hb.toAdmitted)
  jobKeys := h.jobKeys.turn hs
  found := by
    intro key j b job hj hb hjob
    obtain hold | ⟨now, rfl⟩ | ⟨i, r, next, a, running, pending, answer, rfl⟩ := hs.active_inv hj
    · exact h.found hold hb hjob
    · cases hb
    · exact h.found_answered running pending answer hb hjob

theorem SelfMinded.run (h : SelfMinded settings w)
    (hr : Reaches settings (Outside Apart) w w') : SelfMinded settings w' := by
  induction hr with
  | refl => exact h
  | tail _ hs ih => exact ih.step hs

/-- What an invocation is about to delete or to record is its own job. -/
structure KeepsToOwnJob (settings : BuilderSettings) (key : Key) (b : ImageBuild) (s : Store)
    (i : Invocation) : Prop where
  deletes : ∀ k next, i.rest = .call (.deleteJob k) next →
    k = jobKey key ∧ ∀ job, s.jobs.get? k = some job → BelongsTo b job
  records : ∀ k status next, i.rest = .call (.patchStatus k status) next →
    ∃ f, Finding.Holds settings b f ∧ status = f.status key b i.now ∧
      i.heard = sawImageBuild key b :: f.heard key ∧ ∀ job, f = .observed job → BelongsTo b job

theorem SelfMinded.keepsToOwnJob (h : SelfMinded settings w) (running : w.active key = some i)
    (saw : sawImageBuild key b ∈ i.heard) : KeepsToOwnJob settings key b w.store i := by
  have hst := h.stage running
  constructor
  · intro k next pending
    rw [pending] at hst
    obtain ⟨c, found, hheard, -, held, rfl⟩ := hst.removing_inv
    obtain rfl : b = c := by simpa [hheard, sawImageBuild, sawJob] using saw
    exact ⟨rfl, fun job stored => h.stored_belongsTo running pending saw held stored⟩
  · intro k status next pending
    rw [pending] at hst
    obtain ⟨c, f, rfl, hheard, hholds, rfl⟩ := hst.recording_inv
    obtain rfl : b = c := Finding.eq_read (hheard ▸ saw)
    refine ⟨f, hholds, rfl, hheard, ?_⟩
    rintro job rfl
    exact h.found running saw (hheard ▸ List.mem_cons_of_mem _ List.mem_cons_self)

/-- An invocation acts on the job that it finds under the name, whoever owns it. It is its own job from an
empty cluster on, as long as jobs come from invocations only and no two image builds have one job name. -/
theorem acts_on_job_of_name (settings : BuilderSettings) :
    (∀ s key now job, s.jobs.get? (jobKey key) = some job →
      Upshot key now job s ((reconcile settings key now).run s).store) ∧
    ∀ w key i b, Reaches settings (Outside Apart) (.idle {}) w → w.active key = some i →
      sawImageBuild key b ∈ i.heard → KeepsToOwnJob settings key b w.store i := by
  constructor
  · intro s key now job stored
    exact reconcile_upshot settings now stored
  · intro w key i b hr running saw
    exact ((SelfMinded.empty settings).run hr).keepsToOwnJob running saw

/-- A job that an earlier image build of the same name has left behind. -/
def strayJob : Job where
  metadata := {
    name := some "imgbldr-web"
    ownerReferences := some
      [⟨ImageBuild.apiVersion, ImageBuild.kind, "web", "uid-0", some true, some true⟩] }
  status := some { failed := some 1 }

def strayStore : Store :=
  (({} : Store).addImageBuild plainImageBuild).insertJob "images" strayJob

/-- The job of a deleted image build is its own when it is about to be deleted; a stray one is recorded. -/
theorem plain_job_removed_by_owner :
    ∃ w i b next, Reaches {} (Outside Apart) (.idle {}) w ∧ w.active ⟨"images", "web"⟩ = some i ∧
      sawImageBuild ⟨"images", "web"⟩ b ∈ i.heard ∧
      i.rest = .call (.deleteJob ⟨"images", "imgbldr-web"⟩) next ∧
      (∃ job, w.store.jobs.get? ⟨"images", "imgbldr-web"⟩ = some job ∧ BelongsTo b job) ∧
      ∃ job, strayStore.jobs.get? ⟨"images", "imgbldr-web"⟩ = some job ∧
        Upshot ⟨"images", "web"⟩ ⟨0, 0⟩ job strayStore
          ((reconcile {} ⟨"images", "web"⟩ ⟨0, 0⟩).run strayStore).store := by
  let key : Key := ⟨"images", "web"⟩
  have hadd : Apart {} plainImageBuild :=
    ⟨⟨rfl, by decide, fun _ _ h => (by cases h)⟩, fun _ _ h => (by cases h)⟩
  have hadded : Reaches {} (Outside Apart) (.idle {})
      (.idle (({} : Store).addImageBuild plainImageBuild)) :=
    Relation.ReflTransGen.single (.outside (.added _ hadd))
  have hbegun := hadded.tail (@Turn.begin {} (Outside Apart) _ key ⟨0, 0⟩ rfl)
  have hread := hbegun.tail (.call (World.withActive_active_self _ key _) rfl rfl)
  have hlooked := hread.tail (.call (World.withActive_active_self _ key _) rfl rfl)
  have hcreated := hlooked.tail (.call (World.withActive_active_self _ key _) rfl rfl)
  have hmarked := (hcreated.tail (.leave _ key)).tail (.outside (.marked _ key))
  have hagain := hmarked.tail (@Turn.begin {} (Outside Apart) _ key ⟨1, 0⟩ rfl)
  have hreread := hagain.tail (.call (World.withActive_active_self _ key _) rfl rfl)
  have hfound := hreread.tail (.call (World.withActive_active_self _ key _) rfl rfl)
  refine ⟨_, _, _, _, hfound, World.withActive_active_self _ key _, List.mem_cons_self, rfl,
    ⟨_, rfl, ?_⟩, _, rfl, (acts_on_job_of_name {}).1 strayStore key ⟨0, 0⟩ _ rfl⟩
  exact (((acts_on_job_of_name {}).2 _ _ _ _ hfound (World.withActive_active_self _ key _)
    List.mem_cons_self).deletes _ _ rfl).2 _ rfl

/-- The failure of a stray job is recorded, and it is deleted together with the image build. -/
theorem stray_job_taken_over :
    let key : Key := ⟨"images", "web"⟩
    strayJob.isOwnedBy "uid-1" = false ∧
      (((reconcile {} key ⟨0, 0⟩).run strayStore).store.imageBuilds.get? key).map
        (fun b => (b.status.getD {}).phase) = some .failed ∧
      ((reconcile {} key ⟨0, 0⟩).run (strayStore.markForDeletion key)).store.jobs.get?
        (jobKey key) = none := by
  decide +kernel

end ImageForge.Controller
