import ImageForge.Controller.Operator
import ImageForge.Proofs.Reconcile.Bystanders

/-! The end of an image build. Its job is deleted once, then its finalizer is removed once, however
often it is looked at in between. -/
namespace ImageForge.Controller

open Cluster

variable {s t : Store} {key : Key} {b : ImageBuild} {job : Job} {now : Instant} {o : Operator}
  {outcome : Except ControllerError Verdict} {uid : String}

theorem Operator.reconcile_of_ends
    (h : Ends o.store (Controller.reconcile o.config.builder key now) outcome t) :
    (o.reconcile key now).result = some (outcome.map (·.action)) ∧
      (o.reconcile key now).operator =
        { o with store := t, retries := o.retries.afterVerdict key outcome } := by
  simp [Operator.reconcile, h.result, h.store]

/-- One look at an image build: what it finds under the name of the job, and the changes it makes. -/
structure Look where
  found : Option Job
  recorded : List Event

def Look.standing (l : Look) : Bool := l.found.any (!·.metadata.isBeingDeleted)

def Operator.look (o : Operator) (key : Key) (now : Instant) : Look where
  found := o.store.jobs.get? (jobKey key)
  recorded := (o.reconcile key now).operator.store.events.drop o.store.events.length

/-- Looks at one image build, as many as there are and whenever they are, while others do what they
may do. -/
inductive Looks (key : Key) (o : Operator) : List Look → Operator → Prop
  | start : Looks key o [] o
  | meanwhile {looks : List Look} {o' : Operator} {t : Store} (before : Looks key o looks o')
      (others : Meanwhile key o'.store t) : Looks key o looks { o' with store := t }
  | look {looks : List Look} {o' : Operator} (before : Looks key o looks o') (now : Instant) :
      Looks key o (looks ++ [o'.look key now]) (o'.reconcile key now).operator

/-- The changes that looks are to make: the job is deleted if the first of them finds it, and the image
build is released once one of them does not. -/
def dueChanges (key : Key) (looks : List Look) : List Event :=
  (if looks.head?.any (·.standing) then [.jobDeleted (jobKey key)] else []) ++
    (if looks.any (·.found.isNone) then [.finalizerRemoved key] else [])

/-- How far the deletion of an image build has come after some looks. -/
inductive Phase (key : Key) (s : Store) : List Look → Prop
  | marked {b : ImageBuild} (doomed : Doomed s key b) : Phase key s []
  | waiting {looks : List Look} {b : ImageBuild} (doomed : Doomed s key b) (begun : looks ≠ [])
      (there : looks.any (·.found.isNone) = false)
      (leaving : ∀ job, s.jobs.get? (jobKey key) = some job → job.metadata.isBeingDeleted)
      (changes : looks.flatMap (·.recorded) = dueChanges key looks) : Phase key s looks
  | released {looks : List Look} (letGo : LetGo s key) (vacant : s.jobs.get? (jobKey key) = none)
      (gone : looks.any (·.found.isNone))
      (changes : looks.flatMap (·.recorded) = dueChanges key looks) : Phase key s looks

/-- What others do brings the deletion no further. -/
theorem Phase.meanwhile {looks : List Look} (h : Phase key s looks)
    (ht : Undisturbed key s t) : Phase key t looks := by
  cases h with
  | marked doomed =>
    obtain ⟨b', hb'⟩ := ht.spares.doomed doomed
    exact .marked hb'
  | waiting doomed begun there leaving changes =>
    obtain ⟨b', hb'⟩ := ht.spares.doomed doomed
    refine .waiting hb' begun there (fun job' hj => ?_) changes
    obtain ⟨job, hjob, hd⟩ := ht.job job' hj
    exact hd (leaving job hjob)
  | released letGo vacant gone changes =>
    refine .released (ht.spares.letGo letGo) ?_ gone changes
    refine Option.eq_none_iff_forall_ne_some.mpr fun job' hj => ?_
    obtain ⟨job, hjob, -⟩ := ht.job job' hj
    cases vacant.symm.trans hjob

theorem Operator.look_recorded {events : List Event}
    (h : Ends o.store (Controller.reconcile o.config.builder key now) outcome t)
    (he : t.events = o.store.events ++ events) :
    o.look key now = ⟨o.store.jobs.get? (jobKey key), events⟩ := by
  simp [Operator.look, (Operator.reconcile_of_ends h).2, he]

/-- Only a first look can be due to delete the job. -/
theorem dueChanges_snoc {looks : List Look} {l : Look} (h : looks = [] → l.standing = false) :
    dueChanges key (looks ++ [l]) =
      (if looks.head?.any (·.standing) then [.jobDeleted (jobKey key)] else []) ++
        (if looks.any (·.found.isNone) || l.found.isNone then [.finalizerRemoved key] else []) := by
  have hhead : (looks ++ [l]).head?.any (·.standing) = looks.head?.any (·.standing) := by
    cases looks with
    | nil => simpa using h rfl
    | cons first rest => rfl
  have hgone : (looks ++ [l]).any (·.found.isNone) =
      (looks.any (·.found.isNone) || l.found.isNone) := by simp
  rw [dueChanges, hhead, hgone]

theorem Doomed.look_jobless {looks : List Look} (h : Doomed o.store key b) (hs : Sound o.store)
    (hj : o.store.jobs.get? (jobKey key) = none) (there : looks.any (·.found.isNone) = false)
    (changes : looks.flatMap (·.recorded) = dueChanges key looks) :
    Sound (o.reconcile key now).operator.store ∧
      Phase key (o.reconcile key now).operator.store (looks ++ [o.look key now]) := by
  have hk := hs.wellKeyed key b h.stored
  obtain ⟨t, hremoved⟩ := h.removable hk
  have hends : Ends o.store (Controller.reconcile o.config.builder key now) _ t :=
    h.ends_jobless hs.quiet hj hremoved
  have hevents := hremoved.events
  rw [Request.event?, hk] at hevents
  have hlook := Operator.look_recorded hends hevents
  rw [(Operator.reconcile_of_ends hends).2, hlook]
  refine ⟨hs.success hremoved, .released (h.letGo hk hremoved) ?_ (by simp [hj]) ?_⟩
  · obtain hlost | ⟨_, _, hr, -⟩ := hremoved.dwindles
    · refine Option.eq_none_iff_forall_ne_some.mpr fun job' hj' => ?_
      obtain ⟨job, hjob, -⟩ := hlost.found hs.jobs hj'
      cases hj.symm.trans hjob
    · cases hr
  · rw [dueChanges_snoc fun _ => by rw [hj]; rfl]
    simp [changes, dueChanges, there, hj]

theorem Doomed.look_terminating {looks : List Look} (h : Doomed o.store key b)
    (hs : Sound o.store) (hj : o.store.jobs.get? (jobKey key) = some job)
    (terminating : job.metadata.isBeingDeleted) (there : looks.any (·.found.isNone) = false)
    (changes : looks.flatMap (·.recorded) = dueChanges key looks) :
    Sound (o.reconcile key now).operator.store ∧
      Phase key (o.reconcile key now).operator.store (looks ++ [o.look key now]) := by
  have hends : Ends o.store (Controller.reconcile o.config.builder key now) _ o.store :=
    h.ends_terminating hs.quiet hj terminating
  have hlook := Operator.look_recorded hends (List.append_nil _).symm
  rw [(Operator.reconcile_of_ends hends).2, hlook]
  refine ⟨hs, .waiting h (by simp) (by simp [there, hj]) (fun job' hj' => ?_) ?_⟩
  · cases hj.symm.trans hj'
    exact terminating
  · rw [dueChanges_snoc fun _ => by simp [Look.standing, hj, terminating]]
    simp [changes, dueChanges, there, hj]

theorem Doomed.look_standing (h : Doomed o.store key b) (hs : Sound o.store)
    (hj : o.store.jobs.get? (jobKey key) = some job) (standing : ¬ job.metadata.isBeingDeleted) :
    Sound (o.reconcile key now).operator.store ∧
      Phase key (o.reconcile key now).operator.store [o.look key now] := by
  have hends : Ends o.store (Controller.reconcile o.config.builder key now) _ _ :=
    h.ends_standing hs.quiet hj standing
  have hdeleted := Store.Success.jobDeleted (s := o.store) (jobKey key)
  have hlook := Operator.look_recorded hends hdeleted.events
  rw [(Operator.reconcile_of_ends hends).2, hlook]
  have hdoomed : Doomed ((o.store.deleteJob (jobKey key)).record (.jobDeleted (jobKey key))) key b :=
    ⟨(congrArg (Table.get? · key) (Store.deleteJob_imageBuilds _)).trans h.stored, h.deleted,
      h.held⟩
  refine ⟨hs.success hdeleted, .waiting hdoomed (by simp) (by simp [hj])
    (fun _ hj' => Store.deleteJob_terminating hj') ?_⟩
  simp [dueChanges, Look.standing, hj, standing, Request.event?]

/-- A look brings the deletion as far as it can. -/
theorem Phase.look {looks : List Look} (h : Phase key o.store looks) (hs : Sound o.store)
    (now : Instant) : Sound (o.reconcile key now).operator.store ∧
      Phase key (o.reconcile key now).operator.store (looks ++ [o.look key now]) := by
  cases h with
  | marked doomed =>
    cases hj : o.store.jobs.get? (jobKey key) with
    | none => exact doomed.look_jobless hs hj rfl rfl
    | some job =>
      by_cases terminating : job.metadata.isBeingDeleted
      · exact doomed.look_terminating hs hj terminating rfl rfl
      · exact doomed.look_standing hs hj terminating
  | waiting doomed begun there leaving changes =>
    cases hj : o.store.jobs.get? (jobKey key) with
    | none => exact doomed.look_jobless hs hj there changes
    | some job => exact doomed.look_terminating hs hj (leaving job hj) there changes
  | released letGo vacant gone changes =>
    have hends := (letGo.idle o.config.builder now).awaits hs.quiet
    have hlook := Operator.look_recorded hends (List.append_nil _).symm
    rw [(Operator.reconcile_of_ends hends).2, hlook]
    refine ⟨hs, .released letGo vacant (by simp [gone]) ?_⟩
    rw [dueChanges_snoc fun _ => by rw [vacant]; rfl]
    simp [changes, dueChanges, gone]

theorem Looks.phase {looks : List Look} {o' : Operator} (h : Looks key o looks o')
    (hs : Sound o.store) (hb : Doomed o.store key b) :
    Sound o'.store ∧ Phase key o'.store looks := by
  induction h with
  | start => exact ⟨hs, .marked hb⟩
  | meanwhile _ others ih =>
    have hothers := others.undisturbed ih.1
    exact ⟨hothers.sound, ih.2.meanwhile hothers⟩
  | look _ now ih => exact ih.2.look ih.1 now

/-- The end of an image build. A job that is there is deleted by one look, which changes nothing else;
while it is terminating looks change nothing; and when it is gone one look releases the image build and
forgets its delays. In every run, whatever others do meanwhile and however many looks there are, the job
is deleted exactly if the first look finds it, and the image build is released exactly if some look does
not, both once. -/
theorem deletion_path (hs : Sound o.store) (hb : Doomed o.store key b)
    (hu : b.metadata.uid = some uid) :
    (∀ job, o.store.jobs.get? (jobKey key) = some job → ¬ job.metadata.isBeingDeleted → ∀ now,
      let after := (o.reconcile key now).operator
      (o.reconcile key now).result = some (.ok (.requeue terminationPoll)) ∧
        after.store.events = o.store.events ++ [.jobDeleted (jobKey key)] ∧
        after.store.imageBuilds = o.store.imageBuilds ∧ after.retries = o.retries ∧
        ∀ job', after.store.jobs.get? (jobKey key) = some job' → job'.metadata.isBeingDeleted) ∧
    (∀ job, o.store.jobs.get? (jobKey key) = some job → job.metadata.isBeingDeleted →
      ∀ (times : List Instant) (now : Instant),
        let after := times.foldl (fun o now => (o.reconcile key now).operator) o
        after = o ∧ (after.reconcile key now).result = some (.ok (.requeue terminationPoll))) ∧
    (o.store.jobs.get? (jobKey key) = none → ∀ now,
      let after := (o.reconcile key now).operator
      (o.reconcile key now).result = some (.ok .awaitChange) ∧
        Release o.store key b uid after.store ∧
        after.retries = o.retries.reset key.text ∧ after.retries.get? key.text = none) ∧
    ∀ looks o', Looks key o looks o' →
      looks.flatMap (·.recorded) =
          (if looks.head?.any (·.standing) then [.jobDeleted (jobKey key)] else []) ++
            (if looks.any (·.found.isNone) then [.finalizerRemoved key] else []) ∧
        (looks.any (·.found.isNone) → LetGo o'.store key) := by
  have hk := hs.wellKeyed key b hb.stored
  refine ⟨fun job hj standing now => ?_, fun job hj terminating => ?_, fun hj now => ?_,
    fun looks o' hrun => ?_⟩
  · have hends : Ends o.store (Controller.reconcile o.config.builder key now) _ _ :=
      hb.ends_standing hs.quiet hj standing
    obtain ⟨hresult, hafter⟩ := Operator.reconcile_of_ends hends
    rw [hafter]
    refine ⟨hresult, ?_, Store.deleteJob_imageBuilds _, rfl,
      fun job' hj' => Store.deleteJob_terminating hj'⟩
    exact (Store.Success.jobDeleted (jobKey key)).events
  · have hsame : ∀ now, (o.reconcile key now).result = some (.ok (.requeue terminationPoll)) ∧
        (o.reconcile key now).operator = o := fun now =>
      Operator.reconcile_of_ends (hb.ends_terminating hs.quiet hj terminating)
    intro times now
    -- The operator that looks again is the same one, so each look goes as the first.
    have hafter : times.foldl (fun o now => (o.reconcile key now).operator) o = o := by
      induction times with
      | nil => rfl
      | cons now times ih => rw [List.foldl_cons, (hsame now).2, ih]
    refine ⟨hafter, ?_⟩
    rw [hafter]
    exact (hsame now).1
  · obtain ⟨t, hremoved⟩ := hb.removable hk
    have hends : Ends o.store (Controller.reconcile o.config.builder key now) _ t :=
      hb.ends_jobless hs.quiet hj hremoved
    obtain ⟨hresult, hafter⟩ := Operator.reconcile_of_ends hends
    rw [hafter]
    refine ⟨hresult, hb.release hk hu hremoved, rfl, ?_⟩
    simp [Retries.afterVerdict, Retries.reset, Retries.get?]
  · obtain ⟨-, hphase⟩ := hrun.phase hs hb
    cases hphase with
    | marked _ => exact ⟨rfl, fun hgone => by cases hgone⟩
    | waiting _ _ there _ changes =>
      exact ⟨changes, fun hgone => by simp [there] at hgone⟩
    | released letGo _ _ changes => exact ⟨changes, fun _ => letGo⟩

/-- A controller that holds a plain image build marked for deletion, with its job, on a cluster on which
deleted jobs linger. -/
def doomedPlain : Operator where
  config := {}
  store := (((({} : Store).addImageBuild plainImageBuild).insertJob "images"
    { metadata := { name := some "imgbldr-web" } }).markForDeletion
      ⟨"images", "web"⟩).setHoldJobDeletions true

/-- Three looks at it, after the second of which the job goes. -/
theorem plain_deletion_path :
    ∃ looks o', Looks ⟨"images", "web"⟩ doomedPlain looks o' ∧ looks.length = 3 ∧
      looks.flatMap (·.recorded) =
        [.jobDeleted ⟨"images", "imgbldr-web"⟩, .finalizerRemoved ⟨"images", "web"⟩] ∧
      LetGo o'.store ⟨"images", "web"⟩ := by
  let key : Key := ⟨"images", "web"⟩
  have hinserted : Store.WellKeyed _ :=
    (Store.WellKeyed.empty.added plainImageBuild).of_eq (t := (({} : Store).addImageBuild
      plainImageBuild).insertJob "images" { metadata := { name := some "imgbldr-web" } }) rfl
  have hmarked := hinserted.outside (@Outside.marked (fun _ _ => False) _ key)
  have hs : Sound doomedPlain.store :=
    ⟨⟨rfl, rfl⟩, hmarked.of_eq rfl, by unfold Table.Distinct; decide⟩
  have hb : Doomed doomedPlain.store key _ := ⟨rfl, rfl, by decide⟩
  have hstart : Looks key doomedPlain [] doomedPlain := .start
  have hlooked := (hstart.look ⟨0, 0⟩).look ⟨5, 0⟩
  have hcompleted := hlooked.meanwhile (.deletionsCompleted (hlooked.phase hs hb).1.quiet)
  have hgone := hcompleted.look ⟨10, 0⟩
  obtain ⟨hchanges, hletGo⟩ := (deletion_path hs hb rfl).2.2.2 _ _ hgone
  exact ⟨_, _, hgone, rfl, hchanges.trans (by decide +kernel), hletGo (by decide +kernel)⟩

end ImageForge.Controller
