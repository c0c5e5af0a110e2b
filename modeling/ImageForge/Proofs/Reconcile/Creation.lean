import ImageForge.Proofs.Reconcile.Interleaving

/-! A builder job is created only for a guarded, unfinished image build that has none, whatever happens
between the calls of an invocation. -/
namespace ImageForge.Controller

open Cluster

variable {settings : BuilderSettings} {outside : Store → Store → Prop} {w w' : World} {key : Key}

/-- The turn in which a call of the invocation of a key to create a job succeeds. -/
inductive Creates (w : World) (key : Key) : World → Prop
  | succeeds {i ns job next t} (running : w.active key = some i)
      (pending : i.rest = .call (.createJob ns job) next)
      (answer : w.store.answer (.createJob ns job) = some (.ok (), t)) :
      Creates w key (World.withActive ⟨t, w.active⟩ key
        (some ⟨i.now, i.heard ++ [⟨.createJob ns job, .ok ()⟩], next (.ok ())⟩))

theorem Creates.turn (h : Creates w key w') : Turn settings outside w w' := by
  cases h with
  | succeeds running pending answer => exact .call running pending answer

/-- A creation as it should be: `read` is the image build that the invocation has read, `stored` the
one that is there now, and `job` the job that is there afterwards. -/
structure GuardedCreation (key : Key) (w w' : World) (i : Invocation) (read stored : ImageBuild)
    (job : Job) : Prop where
  running : w.active key = some i
  saw : sawImageBuild key read ∈ i.heard
  readGuarded : read.hasFinalizer
  readAlive : ¬ read.isBeingDeleted
  readUnfinished : ¬ (read.status.getD {}).phase.isTerminal
  there : w.store.imageBuilds.get? key = some stored
  kept : w'.store.imageBuilds = w.store.imageBuilds
  guarded : stored.hasFinalizer
  unfinished : ¬ (stored.status.getD {}).phase.isTerminal
  vacant : w.store.jobs.get? (jobKey key) = none
  created : w'.store.jobs.get? (jobKey key) = some job
  others : ∀ e ∈ w'.store.jobs, e = (jobKey key, job) ∨ e ∈ w.store.jobs
  recorded : w'.store.events = w.store.events ++ [.jobCreated (jobKey key)]
  name : job.metadata.name = some (builderJobName key.name)
  ns : job.metadata.ns = some key.ns
  managed : (managedByLabel, managedBy) ∈ job.metadata.labels.getD []
  owner : ∃ o, job.metadata.ownerReferences = some [o] ∧ o.controller = some true ∧
    stored.metadata.uid = some o.uid ∧ stored.metadata.name = some o.name

theorem Coherent.creation (h : Coherent settings w) (hc : Creates w key w') :
    ∃ i read stored job, GuardedCreation key w w' i read stored job := by
  cases hc with
  | @succeeds i ns job next t running pending answer =>
    have hst := h.stage running
    have hcur := h.current running
    have hk := h.keyed running
    rw [pending] at hst
    have hjob := hst.created_key hk
    obtain ⟨b, hheard, alive, held, unfinished, built, rfl⟩ := hst.creating_inv
    have hb : sawImageBuild key b ∈ i.heard := by
      rw [hheard]
      exact List.mem_cons_self
    obtain ⟨c, hc, hcb⟩ := hcur b _ next hb held pending
    -- The job is named after the image build that was read, which is the one of the key.
    obtain ⟨name, ns, uid, hn, -, hu, hm⟩ := ownedBuilderJob_metadata built
    have hname : name = key.name := by
      have hkey := congrArg Key.name (hk b hb)
      simpa only [snapshotKey, Metadata.displayName, hn] using hkey
    subst hname
    have hcname : c.metadata.name = b.metadata.name := congrArg (fun b => b.metadata.name) hcb
    have hcuid : c.metadata.uid = b.metadata.uid := congrArg (fun b => b.metadata.uid) hcb
    have hcstatus : c.status = b.status := congrArg (fun b => b.status) hcb
    obtain ⟨e, he, -⟩ | ⟨x, -, hsucc⟩ := Store.answer_cases answer
    · cases he
    · cases hsucc with
      | jobCreated vacant =>
        rw [hjob] at vacant ⊢
        refine ⟨i, b, c, job.accepted key.ns w.store.nextVersion, ?_⟩
        exact {
          running, saw := hb, readGuarded := held, readAlive := alive
          readUnfinished := unfinished, there := hc, kept := rfl
          guarded := ImageBuild.hasFinalizer_of_content hcb held
          unfinished := hcstatus ▸ unfinished
          vacant
          created := Table.get?_put_self _ _ _
          others := fun _ he => Table.mem_put he
          recorded := rfl
          name := by simp [Job.accepted, hm]
          ns := rfl
          managed := by simpa [Job.accepted, hm] using managedBy_mem_builderLabels key.name
          owner := ⟨_, congrArg Metadata.ownerReferences hm, rfl, hcuid.trans hu,
            hcname.trans hn⟩ }

theorem job_left_between {k : Key} (h : Reaches settings outside w w')
    (hw : w.store.jobs.get? k ≠ none) (hw' : w'.store.jobs.get? k = none) :
    ∃ x y, Reaches settings outside w x ∧ Turn settings outside x y ∧
      Reaches settings outside y w' ∧ x.store.jobs.get? k ≠ none ∧ y.store.jobs.get? k = none := by
  induction h with
  | refl => exact absurd hw' hw
  | @tail x y hx hs ih =>
    by_cases hk : x.store.jobs.get? k = none
    · obtain ⟨u, v, hu, huv, hv, hgone⟩ := ih hk
      exact ⟨u, v, hu, huv, hv.tail hs, hgone⟩
    · exact ⟨x, y, hx, hs, .refl, hk, hw'⟩

/-- A builder job is created only for an image build that carries the finalizer and is not over, as
it was read and as it still is, only where there is no job, and as that image build's own. So before
a job of that name is created again, the first one has left the cluster. -/
theorem job_creation_guarded {s : Store} (hs : s.WellKeyed)
    (hr : Reaches settings (Outside Unused) (.idle s) w) (hc : Creates w key w') :
    (∃ i read stored job, GuardedCreation key w w' i read stored job) ∧
      ∀ key' u u', Reaches settings (Outside Unused) w' u → Creates u key' u' →
        jobKey key' = jobKey key →
        ∃ x y, Reaches settings (Outside Unused) w' x ∧ Turn settings (Outside Unused) x y ∧
          Reaches settings (Outside Unused) y u ∧
          x.store.jobs.get? (jobKey key) ≠ none ∧ y.store.jobs.get? (jobKey key) = none := by
  have hw : Coherent settings w := (Coherent.idle hs).run (fun _ _ hu => hu) hr
  obtain ⟨i, read, stored, job, hg⟩ := hw.creation hc
  refine ⟨⟨i, read, stored, job, hg⟩, ?_⟩
  intro key' u u' hu hc' hkey
  have hcu : Coherent settings u := (hw.step (fun _ _ hu => hu) hc.turn).run (fun _ _ hu => hu) hu
  obtain ⟨_, _, _, _, hg'⟩ := hcu.creation hc'
  have hpresent : w'.store.jobs.get? (jobKey key) ≠ none := by
    rw [hg.created]
    exact Option.some_ne_none job
  exact job_left_between hu hpresent (hkey ▸ hg'.vacant)

theorem plain_job_created (outside : Store → Store → Prop) :
    ∃ w w', Reaches {} outside (.idle (({} : Store).addImageBuild plainImageBuild)) w ∧
      Creates w ⟨"images", "web"⟩ w' := by
  let key : Key := ⟨"images", "web"⟩
  have hbegun := Relation.ReflTransGen.single (@Turn.begin {} outside
    (.idle (({} : Store).addImageBuild plainImageBuild)) key ⟨0, 0⟩ rfl)
  have hread := hbegun.tail (.call (World.withActive_active_self _ key _) rfl rfl)
  have hlooked := hread.tail (.call (World.withActive_active_self _ key _) rfl rfl)
  exact ⟨_, _, hlooked, .succeeds (World.withActive_active_self _ key _) rfl rfl⟩

/-- The job of a plain image build is created as it should be. -/
theorem plain_job_creation_guarded :
    ∃ w w', Reaches {} (Outside Unused) (.idle (({} : Store).addImageBuild plainImageBuild)) w ∧
      Creates w ⟨"images", "web"⟩ w' ∧
      ∃ i read stored job, GuardedCreation ⟨"images", "web"⟩ w w' i read stored job := by
  obtain ⟨w, w', hr, hc⟩ := plain_job_created (Outside Unused)
  have hs := Store.WellKeyed.empty.added plainImageBuild
  exact ⟨w, w', hr, hc, (job_creation_guarded hs hr hc).1⟩

end ImageForge.Controller
