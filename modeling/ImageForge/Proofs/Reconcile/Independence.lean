import ImageForge.Proofs.Reconcile.Bystanders
import ImageForge.Proofs.Reconcile.Effects

/-! Invocations for different image builds do not interfere: what one of them does leaves the other what
it sees. -/
namespace ImageForge

namespace Cluster

/-- The same objects are stored apart from their versions, and the same changes are recorded apart from
their order. -/
structure SameUpToVersions (s t : Store) : Prop where
  imageBuilds : ∀ k, (s.imageBuilds.get? k).map (·.unversioned) =
    (t.imageBuilds.get? k).map (·.unversioned)
  jobs : ∀ k, (s.jobs.get? k).map (·.unversioned) = (t.jobs.get? k).map (·.unversioned)
  events : s.events.Perm t.events

theorem SameUpToVersions.refl (s : Store) : SameUpToVersions s s :=
  ⟨fun _ => rfl, fun _ => rfl, .refl _⟩

theorem SameUpToVersions.symm {s t : Store} (h : SameUpToVersions s t) : SameUpToVersions t s :=
  ⟨fun k => (h.imageBuilds k).symm, fun k => (h.jobs k).symm, h.events.symm⟩

end Cluster

namespace Controller

open Cluster

variable {key key' : Key} {v v' : View} {s t u : Store} {e e' : Effect}

def View.Owns (v : View) (job : Job) : Prop :=
  ∃ uid, v.imageBuild.metadata.uid = some uid ∧ job.isOwnedBy uid

theorem survives_of_not_owns (h : e.Private v) {job : Job} (ho : ¬ v.Owns job) :
    job.survives e.swept := by
  cases hs : e.swept with
  | none => rfl
  | some uid =>
    cases howned : job.isOwnedBy uid with
    | false => simp [Job.survives, howned]
    | true => exact absurd ⟨uid, h.swept uid hs, howned⟩ ho

/-- Two views of different owners, neither of which owns the job of the other. -/
structure Unrelated (v v' : View) : Prop where
  uids : v.imageBuild.metadata.uid ≠ v'.imageBuild.metadata.uid
  owner : ∀ job, v'.job = some job → ¬ v.Owns job
  owner' : ∀ job, v.job = some job → ¬ v'.Owns job

theorem Unrelated.symm (h : Unrelated v v') : Unrelated v' v := ⟨h.uids.symm, h.owner', h.owner⟩

/-- What one of them leaves of its job survives what the other one does. -/
theorem Unrelated.survives (h : Unrelated v v') (he : e.Private v) (he' : e'.Private v') {job : Job}
    (hj : e'.job = some job) : job.survives e.swept := by
  refine survives_of_not_owns he fun ⟨uid, hu, howned⟩ => ?_
  obtain hu' | ⟨before, hb, howned⟩ := he'.owners job uid hj howned
  · exact h.uids (hu.trans hu'.symm)
  · exact h.owner before hb ⟨uid, hu, howned⟩

/-- Where something was seen it is still seen after an effect on something else. -/
theorem Sees.kept (h : Sees key' v' s) (he : e.Holds key s t) (hk : key' ≠ key)
    (hj : jobKey key' ≠ jobKey key) (hs : ∀ job, v'.job = some job → job.survives e.swept) :
    Sees key' v' t where
  imageBuild := (he.otherImageBuilds key' hk).trans h.imageBuild
  job := by
    rw [he.otherJobs _ hj, h.job]
    cases hv : v'.job with
    | none => rfl
    | some job => exact Option.filter_some_pos (hs job hv)
  lingering := he.lingering.trans h.lingering
  distinct := he.distinct

/-- Both effects have come about, on different keys. -/
structure Joint (key key' : Key) (e e' : Effect) (s u : Store) : Prop where
  imageBuild : (u.imageBuilds.get? key).map (·.unversioned) = e.imageBuild
  imageBuild' : (u.imageBuilds.get? key').map (·.unversioned) = e'.imageBuild
  imageBuilds : ∀ k ≠ key, k ≠ key' → u.imageBuilds.get? k = s.imageBuilds.get? k
  job : (u.jobs.get? (jobKey key)).map (·.unversioned) = e.job
  job' : (u.jobs.get? (jobKey key')).map (·.unversioned) = e'.job
  jobs : ∀ k ≠ jobKey key, k ≠ jobKey key' → u.jobs.get? k =
    (s.jobs.get? k).filter fun job => job.survives e.swept && job.survives e'.swept
  events : u.events.Perm (s.events ++ (e.events ++ e'.events))

theorem Joint.symm (h : Joint key key' e e' s u) : Joint key' key e' e s u where
  imageBuild := h.imageBuild'
  imageBuild' := h.imageBuild
  imageBuilds k hk hk' := h.imageBuilds k hk' hk
  job := h.job'
  job' := h.job
  jobs k hk hk' := by
    rw [h.jobs k hk' hk]
    simp only [Bool.and_comm]
  events := h.events.trans (List.perm_append_comm.append_left _)

/-- One effect comes after the other, and leaves the job of that alone. -/
theorem Effect.Holds.joint (h : e.Holds key s t) (h' : e'.Holds key' t u) (hk : key ≠ key')
    (hj : jobKey key ≠ jobKey key') (hs : ∀ job, e.job = some job → job.survives e'.swept) :
    Joint key key' e e' s u where
  imageBuild := by rw [h'.otherImageBuilds key hk, h.ownImageBuild]
  imageBuild' := h'.ownImageBuild
  imageBuilds k hne hne' := (h'.otherImageBuilds k hne').trans (h.otherImageBuilds k hne)
  job := by
    have hown := h.ownJob
    rw [h'.otherJobs _ hj]
    cases ht : t.jobs.get? (jobKey key) with
    | none => rwa [ht] at hown
    | some job =>
      rw [ht] at hown
      have hstays : (some job).filter (·.survives e'.swept) = some job :=
        Option.filter_some_pos (hs job.unversioned hown.symm)
      rw [hstays]
      exact hown
  job' := h'.ownJob
  jobs k hne hne' := by
    rw [h'.otherJobs k hne', h.otherJobs k hne, Option.filter_filter]
  events := by
    rw [h'.events, h.events, List.append_assoc]

theorem Joint.same {u' : Store} (h : Joint key key' e e' s u) (h' : Joint key key' e e' s u') :
    SameUpToVersions u u' where
  imageBuilds k := by
    by_cases hk : k = key
    · rw [hk, h.imageBuild, h'.imageBuild]
    · by_cases hk' : k = key'
      · rw [hk', h.imageBuild', h'.imageBuild']
      · rw [h.imageBuilds k hk hk', h'.imageBuilds k hk hk']
  jobs k := by
    by_cases hk : k = jobKey key
    · rw [hk, h.job, h'.job]
    · by_cases hk' : k = jobKey key'
      · rw [hk', h.job', h'.job']
      · rw [h.jobs k hk hk', h'.jobs k hk hk']
  events := h.events.trans h'.events.symm

/-- Two invocations for image builds of different uids and with different builder jobs, neither of which
owns the job of the other, do not interfere: however they take turns, they end with the results and leave
the objects that they have and leave one after the other, in either order, apart from versions. -/
theorem reconciliations_independent {b b' : ImageBuild} (settings : BuilderSettings)
    (now now' : Instant) (hs : Sound s) (hb : s.imageBuilds.get? key = some b)
    (hb' : s.imageBuilds.get? key' = some b') (huid : b.metadata.uid ≠ b'.metadata.uid)
    (hj : jobKey key ≠ jobKey key')
    (ho : ∀ job uid, s.jobs.get? (jobKey key') = some job → b.metadata.uid = some uid →
      ¬ job.isOwnedBy uid)
    (ho' : ∀ job uid, s.jobs.get? (jobKey key) = some job → b'.metadata.uid = some uid →
      ¬ job.isOwnedBy uid) :
    ∃ result result' m t m' t',
      (Ends s (reconcile settings key now) result m ∧
        Ends m (reconcile settings key' now') result' t) ∧
      (Ends s (reconcile settings key' now') result' m' ∧
        Ends m' (reconcile settings key now) result t') ∧
      ∀ turns, ∃ u, takeTurns turns s (reconcile settings key now)
          (reconcile settings key' now') = some (result, result', u) ∧
        SameUpToVersions u t ∧ SameUpToVersions u t' := by
  let v : View := ⟨b, s.jobs.get? (jobKey key), s.holdJobDeletions⟩
  let v' : View := ⟨b', s.jobs.get? (jobKey key'), s.holdJobDeletions⟩
  have hv : Sees key v s := ⟨hb, rfl, rfl, hs.jobs⟩
  have hv' : Sees key' v' s := ⟨hb', rfl, rfl, hs.jobs⟩
  have hne : key ≠ key' := fun he => hj (congrArg jobKey he)
  have hunrelated : Unrelated v v' :=
    ⟨huid, fun job hjob ⟨uid, hu, howned⟩ => ho job uid hjob hu howned,
      fun job hjob ⟨uid, hu, howned⟩ => ho' job uid hjob hu howned⟩
  obtain ⟨result, change, e, hp, he, heffect⟩ :=
    reconcile_effect (v := v) settings now (hs.wellKeyed key b hb)
  obtain ⟨result', change', e', hp', he', heffect'⟩ :=
    reconcile_effect (v := v') settings now' (hs.wellKeyed key' b' hb')
  have spares : ∀ t, Sees key v t → Sees key' v' t → Sees key' v' (t.after change) :=
    fun t ht ht' => ht'.kept (heffect t ht) hne.symm hj.symm
      fun job hjob => survives_of_not_owns he (hunrelated.owner job hjob)
  have spares' : ∀ t, Sees key v t → Sees key' v' t → Sees key v (t.after change') :=
    fun t ht ht' => ht.kept (heffect' t ht') hne hj
      fun job hjob => survives_of_not_owns he' (hunrelated.owner' job hjob)
  -- Each order comes to the two effects together, which do not say in which order they came about.
  have hfirst : Joint key key' e e' s ((s.after change).after change') :=
    (heffect s hv).joint (heffect' _ (spares s hv hv')) hne hj
      fun job hjob => hunrelated.symm.survives he' he hjob
  have hsecond : Joint key' key e' e s ((s.after change').after change) :=
    (heffect' s hv').joint (heffect _ (spares' s hv hv')) hne.symm hj.symm
      fun job hjob => hunrelated.survives he he' hjob
  have hsame := hfirst.same hsecond.symm
  refine ⟨result, result', _, _, _, _,
    ⟨hp.ends hs.quiet hv, hp'.ends (hs.quiet.after change) (spares s hv hv')⟩,
    ⟨hp'.ends hs.quiet hv', hp.ends (hs.quiet.after change') (spares' s hv hv')⟩,
    fun turns => ?_⟩
  obtain ⟨u, hu, rfl | rfl⟩ :=
    takeTurns_foretold turns hp hp' hs.quiet hv hv' spares spares'
  · exact ⟨_, hu, .refl _, hsame⟩
  · exact ⟨_, hu, hsame.symm, .refl _⟩

def siteImageBuild : ImageBuild :=
  { plainImageBuild with metadata := { plainImageBuild.metadata with
    name := some "site", uid := some "uid-2" } }

/-- A cluster on which one image build waits for its release and the other one for its job. -/
def neighbours : Store :=
  ((({} : Store).addImageBuild plainImageBuild).addImageBuild siteImageBuild).markForDeletion
    ⟨"images", "web"⟩

/-- However the two invocations take turns, one image build is released and the other one gets its
job. -/
theorem neighbours_independent :
    let p := reconcile {} ⟨"images", "web"⟩ ⟨0, 0⟩
    let q := reconcile {} ⟨"images", "site"⟩ ⟨1, 0⟩
    ∀ turns, ∃ u, takeTurns turns neighbours p q =
        some (.ok { action := .awaitChange, released := true },
          .ok { action := .requeue settleDelay }, u) ∧
      SameUpToVersions u (q.run (p.run neighbours).store).store ∧
      SameUpToVersions u (p.run (q.run neighbours).store).store := by
  intro p q
  have hkeyed := ((Store.WellKeyed.empty.added plainImageBuild).added siteImageBuild).outside
    (@Outside.marked (fun _ _ => False) _ ⟨"images", "web"⟩)
  have hs : Sound neighbours := ⟨⟨rfl, rfl⟩, hkeyed, List.nodup_nil⟩
  have hb : neighbours.imageBuilds.get? ⟨"images", "web"⟩ = some _ := rfl
  have hb' : neighbours.imageBuilds.get? ⟨"images", "site"⟩ = some _ := rfl
  obtain ⟨result, result', m, t, m', t', ⟨hp, hq⟩, ⟨hq', hp'⟩, hturns⟩ :=
    reconciliations_independent {} ⟨0, 0⟩ ⟨1, 0⟩ hs hb hb' (by decide) (by decide)
      (fun _ _ hj => by cases hj) (fun _ _ hj => by cases hj)
  have hresult : (p.run neighbours).result =
      some (.ok { action := .awaitChange, released := true }) := rfl
  have hresult' : (q.run neighbours).result =
      some (.ok { action := .requeue settleDelay }) := rfl
  cases hp.result.symm.trans hresult
  cases hq'.result.symm.trans hresult'
  cases hp.store
  cases hq.store
  cases hq'.store
  cases hp'.store
  exact hturns

end Controller

end ImageForge
