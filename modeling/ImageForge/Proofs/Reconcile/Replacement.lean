import ImageForge.Proofs.Reconcile.Recording
import ImageForge.Proofs.Reconcile.Rest
import ImageForge.Proofs.Reconcile.ValidTimes

/-! Storing a status by a merge patch. What is read afterwards is the status that was sent exactly when
that one leaves out nothing of the old one. -/
namespace ImageForge

namespace ImageBuildStatus

variable {old new : ImageBuildStatus}

/-- A status has a value wherever an old one has the place of the output or a generation. -/
structure Covers (new old : ImageBuildStatus) : Prop where
  outputUrl : old.outputUrl.isSome → new.outputUrl.isSome
  observedGeneration : old.observedGeneration.isSome → new.observedGeneration.isSome

theorem or_eq_left_iff {α : Type} {a b : Option α} : a.or b = a ↔ (b.isSome → a.isSome) := by
  cases a <;> cases b <;> simp

/-- A status that renews an old one loses at most the place of the output and the generation. -/
theorem Renews.laidOver {jobName : String} (h : Renews jobName old new) : new.laidOver old = { new with
    outputUrl := new.outputUrl.or old.outputUrl
    observedGeneration := new.observedGeneration.or old.observedGeneration } := by
  have hconditions : new.conditions.isEmpty = false := by
    cases hc : new.conditions with
    | nil => simpa [hc, Conditions.types] using h.complete .builderJobReady
    | cons c cs => rfl
  have hstart : new.startTime.or old.startTime = new.startTime := by
    refine or_eq_left_iff.mpr fun hold => ?_
    obtain ⟨t, ht⟩ := Option.isSome_iff_exists.mp hold
    rw [h.ages.startTime t ht]
    rfl
  have hcompletion : new.completionTime.or old.completionTime = new.completionTime := by
    refine or_eq_left_iff.mpr fun hold => ?_
    obtain ⟨t, ht⟩ := Option.isSome_iff_exists.mp hold
    rw [h.ages.completionTime t ht]
    rfl
  have hname : new.builderJobName.or old.builderJobName = new.builderJobName := by
    obtain hsame | hset := h.ages.builderJobName
    · rw [hsame, Option.or_self]
    · rw [hset]
      rfl
  simp only [ImageBuildStatus.laidOver, hconditions, hstart, hcompletion, hname, if_false,
    Bool.false_eq_true]

theorem Renews.laidOver_eq_iff {jobName : String} (h : Renews jobName old new) :
    new.laidOver old = new ↔ new.Covers old := by
  rw [h.laidOver]
  constructor
  · intro heq
    exact ⟨or_eq_left_iff.mp (congrArg ImageBuildStatus.outputUrl heq),
      or_eq_left_iff.mp (congrArg ImageBuildStatus.observedGeneration heq)⟩
  · intro hcovers
    rw [or_eq_left_iff.mpr hcovers.outputUrl, or_eq_left_iff.mpr hcovers.observedGeneration]

end ImageBuildStatus

namespace Controller

open Cluster Reconciliation

variable {settings : BuilderSettings} {key k : Key} {now now' : Instant} {s t : Store}
  {b c : ImageBuild} {d d' : ImageBuildStatus} {f : Finding}

namespace Finding

theorem status_outputUrl (key : Key) (b : ImageBuild) (now : Instant) (f : Finding) :
    (f.status key b now).outputUrl = match f with
      | .observed job => (jobState job).outputUrl b b.recorded.outputUrl
      | _ => b.recorded.outputUrl := by
  cases f with
  | absent | terminating _ | refused _ _ => rfl
  | unbuildable e =>
    have hurl := congrArg ImageBuildStatus.outputUrl (ImageBuildStatus.jobNotConstructed_eq
      (b.recorded.refresh b.metadata.generation now) e now)
    exact hurl
  | observed job =>
    obtain ⟨_, -, heq⟩ :=
      ImageBuildStatus.jobObserved_eq b (builderJobName key.name) (jobState job)
    simp only [status, heq]
    rfl

/-- The job has succeeded, and the output of the image build has no place. -/
def Displaces (b : ImageBuild) : Finding → Prop
  | .observed job => (∃ start completion, jobState job = .succeeded start completion) ∧
      ∀ url, outputUrl b ≠ .ok (some url)
  | _ => False

/-- Only such a finding leaves out the place of the output, and only an image build without a generation
has it left out. -/
theorem status_covers_iff : (f.status key b now).Covers b.recorded ↔
    (f.Displaces b → b.recorded.outputUrl = none) ∧
      (b.metadata.generation = none → b.recorded.observedGeneration = none) := by
  have hplace : (b.recorded.outputUrl.isSome → (f.status key b now).outputUrl.isSome) ↔
      (f.Displaces b → b.recorded.outputUrl = none) := by
    rw [status_outputUrl]
    cases f with
    | absent | terminating _ | refused _ _ | unbuildable _ => simp [Displaces]
    | observed job =>
      simp only [Displaces]
      cases jobState job with
      | running _ | failed _ _ => simp [JobState.outputUrl]
      | succeeded start completion =>
        simp only [JobState.outputUrl]
        cases outputUrl b with
        | error e => simp
        | ok url => cases url <;> simp
  have hgeneration := status_generation key b now f
  constructor
  · intro h
    refine ⟨hplace.mp h.outputUrl, fun hnone => ?_⟩
    have hold := h.observedGeneration
    simpa [hgeneration, hnone] using hold
  · intro h
    refine ⟨hplace.mpr h.1, fun hold => ?_⟩
    rw [hgeneration, Option.isSome_iff_ne_none]
    intro hnone
    simp [h.2 hnone] at hold

/-- What the next look at an unchanged cluster finds out, once a finding was told. -/
def again : Finding → Finding
  | .absent | .refused _ _ | .unbuildable _ => .absent
  | .terminating job => .terminating job
  | .observed job => .observed job

theorem again_status (h : c.IsWith b (f.status key b now)) (now' : Instant) :
    c.recorded = f.again.status key c now' := by
  cases f with
  | absent | terminating _ | refused _ _ | unbuildable _ => exact absent_told h now'
  | observed job => exact observed_told h now'

theorem phase_of_jobless (h : f.Holds settings b) (hjob : f.job? = none) :
    (f.status key b now).phase.isTerminal := by
  cases f with
  | absent => exact h
  | refused job why =>
    have hphase : ((refused job why).status key b now).phase = .failed :=
      Phase.advance_of_unfinished h.1 rfl
    rw [hphase]
    rfl
  | unbuildable e =>
    rw [unbuildable_phase h.1]
    rfl
  | terminating _ | observed _ => cases hjob

theorem status_of_next {f' : Finding} (h : f.Holds settings b) (h' : f'.Holds settings c)
    (hjob : f'.job? = f.job?) (ended : f.job? = none → c.recorded.phase.isTerminal)
    (now' : Instant) : f'.status key c now' = f.again.status key c now' := by
  cases f' with
  | absent =>
    cases f with
    | absent | refused _ _ | unbuildable _ => rfl
    | terminating _ | observed _ => cases hjob
  | terminating job =>
    cases f with
    | absent | refused _ _ | unbuildable _ => cases hjob
    | terminating _ => rfl
    | observed _ =>
      cases hjob
      exact absurd h' h
  | observed job =>
    cases f with
    | absent | refused _ _ | unbuildable _ => cases hjob
    | terminating _ =>
      cases hjob
      exact absurd h h'
    | observed _ =>
      cases hjob
      rfl
  | refused _ _ | unbuildable _ => exact absurd (ended hjob.symm) h'.1

theorem covers_of_again (h : c.IsWith b ((f.status key b now).laidOver b.recorded))
    (hsame : c.recorded = f.again.status key c now') :
    (f.status key b now).Covers b.recorded := by
  have hmerged := h.recorded
  constructor
  · intro hold
    cases f with
    | absent | terminating _ | refused _ _ | unbuildable _ => rwa [status_outputUrl]
    | observed job =>
      have hurl := outputUrl_of_isWith h
      have hread := congrArg ImageBuildStatus.outputUrl hsame
      rw [hmerged, status_outputUrl, hmerged] at hread
      rw [status_outputUrl]
      dsimp only [again] at hread ⊢
      cases hstate : jobState job with
      | running _ | failed _ _ => exact hold
      | succeeded start completion =>
        have hplace : ∀ x y, (JobState.succeeded start completion).outputUrl c x =
            (JobState.succeeded start completion).outputUrl b y := by
          intro x y
          simp only [JobState.outputUrl, hurl]
        rw [hstate, hplace _ b.recorded.outputUrl] at hread
        rw [← hread, ImageBuildStatus.laidOver, Option.isSome_or]
        simp [hold]
  · intro hold
    have hread := congrArg ImageBuildStatus.observedGeneration hsame
    rw [status_generation, h.generation, ← status_generation key b now f, hmerged] at hread
    rw [← hread, ImageBuildStatus.laidOver, Option.isSome_or]
    simp [hold]

end Finding

/-- The cluster is as it was when a finding was told: the image build is guarded, its builder job is the
same, and without one the build is over. -/
structure Lasts (key : Key) (t : Store) (f : Finding) (c : ImageBuild) : Prop where
  stored : t.imageBuilds.get? key = some c
  alive : ¬ c.isBeingDeleted
  held : c.hasFinalizer
  job : t.jobs.get? (jobKey key) = f.job?
  ended : f.job? = none → c.recorded.phase.isTerminal

theorem News.lasts (h : News settings key now s b f) (same : t.jobs = s.jobs)
    (stored : t.imageBuilds.get? key = some c) (hc : c.IsWith b d)
    (hphase : d.phase = (f.status key b now).phase) : Lasts key t f c where
  stored := stored
  alive := hc.isBeingDeleted ▸ h.alive
  held := hc.hasFinalizer ▸ h.held
  job := by rw [same, h.job]
  ended hnone := by
    rw [hc.recorded, hphase]
    exact Finding.phase_of_jobless h.holds hnone

/-- As long as nothing changes, whatever is news tells what the next look finds out. -/
theorem Lasts.status_of_news (h : Lasts key t f c) (hf : f.Holds settings b) {f' : Finding}
    {c' : ImageBuild} (h' : News settings key now' t c' f') :
    c' = c ∧ f'.status key c' now' = f.again.status key c now' := by
  obtain rfl : c' = c := Option.some.inj (h'.stored.symm.trans h.stored)
  exact ⟨rfl, Finding.status_of_next hf h'.holds (h'.job.symm.trans h.job) h.ended now'⟩

theorem Lasts.patches_again (h : Lasts key t f c) (hf : f.Holds settings b) (hq : t.Quiet)
    (changed : c.recorded ≠ f.again.status key c now') :
    .patchStatus key (f.again.status key c now') ∈
      ((reconcile settings key now').run t).calls := by
  have hstored : .patchStatus key (f.again.status key c now') ∈ ((persist key (c.status.getD {})
      (f.again.status key c now') (.done f.again.outcome)).run t).calls := by
    have hnews : c.status.getD {} ≠ f.again.status key c now' := changed
    rw [persist, if_neg hnews]
    exact mem_calls_self t _ _
  refine mem_calls_of_success hq (.imageBuildRead h.stored) ?_
  change _ ∈ ((reconcileRead settings key c now').run t).calls
  rw [reconcileRead_of_guarded key h.alive h.held]
  refine mem_calls_of_success hq (.jobRead h.job) ?_
  cases f with
  | absent | refused _ _ | unbuildable _ =>
    change _ ∈ ((reconcileJobless settings key c now').run t).calls
    rw [reconcileJobless_of_terminal key (h.ended rfl)]
    exact hstored
  | terminating job =>
    have hd : job.metadata.isBeingDeleted := hf
    simp only [Finding.job?, if_pos hd]
    exact hstored
  | observed job =>
    have hd : ¬ job.metadata.isBeingDeleted := hf
    simp only [Finding.job?, if_neg hd]
    exact hstored

/-- Where a status is stored by a merge patch, it is read back as it was sent exactly when it leaves out
nothing that the old one had. It is no news to the next invocation then; else the next invocation that
nothing disturbs sends a patch again. -/
theorem status_read_back_iff {doc : Json} (stored : s.imageBuilds.get? key = some b)
    (patched : .patchStatus k d ∈ ((reconcile settings key now).run s).calls)
    (document : ImageBuild.ofJson doc = .ok b) (clock : now.IsValid)
    (times : ∀ job, s.jobs.get? (jobKey key) = some job → job.ReportsValidTimes) :
    k = key ∧
    (s.patchStatus key d).map (·.imageBuilds.get? key) = .ok (some (b.patched d s.nextVersion)) ∧
    (∀ manager request, Http.exchange manager (.patchStatus key d) = .send request →
      request.body = some (Http.statusPatch d)) ∧
    ImageBuild.ofJson (doc.mergePatch (Http.statusPatch d)) =
      .ok { b with status := some (d.laidOver b.recorded) } ∧
    (d.laidOver b.recorded = d ↔ d.Covers b.recorded) ∧
    ∀ t c now', t.jobs = s.jobs → t.imageBuilds.get? key = some c →
      c.IsWith b (d.laidOver b.recorded) →
      (d.Covers b.recorded →
        ∀ k' d', .patchStatus k' d' ∉ ((reconcile settings key now').run t).calls) ∧
      (¬ d.Covers b.recorded → t.Quiet →
        ∃ d', .patchStatus key d' ∈ ((reconcile settings key now').run t).calls) := by
  obtain ⟨rfl, b', f, hnews, rfl⟩ := reconcile_patches_news patched
  obtain rfl : b' = b := Option.some.inj (hnews.stored.symm.trans stored)
  have hreads := ImageBuild.reads_of_ofJson document
  have hrange : (f.status k b' now).InRange := by
    refine Finding.status_inRange hreads.recorded.inRange clock ?_ ?_
    · obtain ⟨v, -, hread⟩ := Decode.read_of_field? hreads.metadata
      exact fun n hn => Metadata.inInt64_of_ofJson hread hn
    · rintro job rfl
      exact times job hnews.job
  have hrenews := f.status_renews k b' now
  refine ⟨rfl, ?_, fun _ _ => Http.body_of_exchange, ImageBuild.ofJson_statusPatch document hrange,
    hrenews.laidOver_eq_iff, ?_⟩
  · simp [Store.patchStatus, stored, Except.map, Store.bump, ImageBuild.patched, Store.nextVersion]
  · intro t c now' hjobs hstored hc
    have hlasts := hnews.lasts hjobs hstored hc rfl
    constructor
    · intro hcovers k' d' hp
      obtain ⟨-, c', f', hnews', -⟩ := reconcile_patches_news hp
      obtain ⟨rfl, hsame⟩ := hlasts.status_of_news hnews.holds hnews'
      rw [hrenews.laidOver_eq_iff.mpr hcovers] at hc
      exact hnews'.changed ((Finding.again_status hc now').trans hsame.symm)
    · intro hdropped hq
      exact ⟨_, hlasts.patches_again hnews.holds hq fun hsame =>
        hdropped (Finding.covers_of_again hc hsame)⟩

def doneJob : Job where
  metadata := { name := some "imgbldr-web" }
  status := some { succeeded := some 1 }

/-- The first status of a plain image build is read back as it was sent. -/
theorem plain_status_read_back :
    let key : Key := ⟨"images", "web"⟩
    let s : Store := { imageBuilds := [(key, plainImageBuild)], jobs := [(jobKey key, doneJob)] }
    ∃ d, .patchStatus key d ∈ ((reconcile {} key ⟨0, 0⟩).run s).calls ∧
      ImageBuild.ofJson (plainImageBuild.toJson.mergePatch (Http.statusPatch d)) =
        .ok { plainImageBuild with status := some d } := by
  intro key s
  let d := (Finding.observed doneJob).status key plainImageBuild ⟨0, 0⟩
  have hcalls : .patchStatus key d ∈ ((reconcile {} key ⟨0, 0⟩).run s).calls :=
    .tail _ (.tail _ (.head _))
  have htimes : ∀ job, s.jobs.get? (jobKey key) = some job → job.ReportsValidTimes := by
    rintro job ⟨⟩ status ⟨⟩
    exact ⟨by rintro t ⟨⟩, by rintro t ⟨⟩⟩
  have hdocument : ImageBuild.ofJson plainImageBuild.toJson = .ok plainImageBuild := rfl
  obtain ⟨-, -, -, hread, hiff, -⟩ := status_read_back_iff rfl hcalls hdocument
    ⟨by decide, by decide, by decide⟩ htimes
  have hcovers : d.Covers plainImageBuild.recorded := ⟨by rintro ⟨⟩, by rintro ⟨⟩⟩
  rw [hiff.mpr hcovers] at hread
  exact ⟨d, hcalls, hread⟩

/-- An image build whose output has gone to a claim, and is to go to a bucket now. -/
def movedImageBuild : ImageBuild :=
  { plainImageBuild with
    spec := { plainImageBuild.spec with output := { plainImageBuild.spec.output with
      pvc := none, objectStorage := some ⟨"images", none, "bucket-key"⟩ } }
    status := some { phase := .succeeded, outputUrl := some "pvc://artifacts/web.tar.gz" } }

/-- Its status tells of no place any more, and the old place is read back all the same. -/
theorem moved_output_read_back :
    let key : Key := ⟨"images", "web"⟩
    let s : Store := { imageBuilds := [(key, movedImageBuild)], jobs := [(jobKey key, doneJob)] }
    ∃ d, .patchStatus key d ∈ ((reconcile {} key ⟨0, 0⟩).run s).calls ∧ d.outputUrl = none ∧
      (ImageBuild.ofJson (movedImageBuild.toJson.mergePatch (Http.statusPatch d))).map
        (·.recorded.outputUrl) = .ok (some "pvc://artifacts/web.tar.gz") :=
  ⟨(Finding.observed doneJob).status ⟨"images", "web"⟩ movedImageBuild ⟨0, 0⟩,
    .tail _ (.tail _ (.head _)), rfl, rfl⟩

end Controller

end ImageForge
