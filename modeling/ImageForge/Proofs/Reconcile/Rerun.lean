import ImageForge.Proofs.Cluster.Running
import ImageForge.Proofs.Reconcile.Consistency

/-! Builds whose job has succeeded. One that is over has no job created any more. One that was to be
published is never over, so without its job it is started anew. -/
namespace ImageForge.Controller

open Cluster ImageBuildStatus

variable {settings : BuilderSettings} {key : Key} {s t : Store} {w w' u u' : World} {i : Invocation}
  {r : Request} {next : Answer r → Reconciliation} {b c : ImageBuild} {job : Job}

/-- An invocation stores the status of an image build after it has seen that the job has succeeded. -/
structure RecordsSuccess (w : World) (key : Key) (b : ImageBuild) (w' : World) : Prop where
  patches : Patches w key w'
  seen : ∃ i job start completion, w.active key = some i ∧ sawImageBuild key b ∈ i.heard ∧
    sawJob key (some job) ∈ i.heard ∧ ¬ job.metadata.isBeingDeleted ∧
    jobState job = .succeeded start completion

theorem Finding.eq_observed {f : Finding} (hf : f.Holds settings b)
    (hsaw : sawJob key (some job) ∈ sawImageBuild key b :: f.heard key)
    (staying : ¬ job.metadata.isBeingDeleted) : f = .observed job := by
  rcases List.mem_cons.mp hsaw with hsaw | hsaw
  · cases hsaw
  · cases f with
    | absent | unbuildable _ => cases List.mem_singleton.mp hsaw
    | refused _ _ => simp [heard, sawJob] at hsaw
    | observed _ =>
      cases List.mem_singleton.mp hsaw
      rfl
    | terminating _ =>
      cases List.mem_singleton.mp hsaw
      exact absurd hf staying

theorem RecordsSuccess.stored (h : RecordsSuccess w key b w') (hw : Staged settings w) :
    ∃ c start completion now, w'.store.imageBuilds.get? key = some c ∧
      c.recorded = (b.recorded.refresh b.metadata.generation now).jobObserved b
        (builderJobName key.name) (.succeeded start completion) now := by
  obtain ⟨hp, i, job, start, completion, hi, hb, hj, staying, hstate⟩ := h
  obtain ⟨running, pending, answer⟩ := hp
  cases hi.symm.trans running
  have hst := hw running
  rw [pending] at hst
  obtain ⟨read, f, -, hheard, hf, rfl⟩ := hst.recording_inv
  rw [hheard] at hb hj
  cases Finding.eq_read hb
  cases Finding.eq_observed hf hj staying
  obtain ⟨e, he, -⟩ | ⟨x, -, hsucc⟩ := Store.answer_cases answer
  · cases he
  · cases hsucc with
    | statusPatched status _ =>
      refine ⟨_, start, completion, i.now, Table.get?_put_self _ _ _, ?_⟩
      rw [← hstate]
      rfl

theorem success_phase (s : ImageBuildStatus) (b : ImageBuild) (jobName : String)
    (start completion : Option Instant) (now : Instant) :
    (s.jobObserved b jobName (.succeeded start completion) now).phase.isTerminal ∨
      (s.jobObserved b jobName (.succeeded start completion) now).phase = .publishing ∧
        b.spec.publish.isSome := by
  obtain ⟨_, -, heq⟩ := jobObserved_eq b jobName (.succeeded start completion)
  simp only [heq, JobState.phase]
  cases b.spec.publish with
  | none => exact Or.inl (by cases s.phase <;> rfl)
  | some publish => cases s.phase <;> simp [Phase.advance, Phase.isTerminal, Phase.rank]

/-- The image build of a key is over, also as its invocation has read it. -/
structure Over (settings : BuilderSettings) (key : Key) (w : World) : Prop where
  tracked : Tracked settings key w
  stored : ∀ {b}, w.store.imageBuilds.get? key = some b → b.recorded.phase.isTerminal
  read : ∀ {i r next b}, w.active key = some i → i.rest = .call r next →
    sawImageBuild key b ∈ i.heard → b.recorded.phase.isTerminal

namespace Over

theorem step (h : Over settings key w) (hs : Turn settings (KeepsStatus key) w w') :
    Over settings key w' where
  tracked := h.tracked.step hs
  stored {b'} hb' := by
    obtain ⟨b, hb, hages⟩ := h.tracked.ages (.single hs) b' hb'
    have hover := h.stored hb
    rw [hages.terminal hover]
    exact hover
  read {i r next b} hi pending hsaw := by
    obtain hold | ⟨now, rfl⟩ | ⟨j, _, _, a, running, hcall, answer, rfl⟩ := hs.active_inv hi
    · exact h.read hold pending hsaw
    · cases hsaw
    · rcases Stage.saw_answered answer hsaw with hsaw | hnow
      · exact h.read running hcall hsaw
      · exact h.stored hnow

theorem run (h : Over settings key w) (hr : Reaches settings (KeepsStatus key) w w') :
    Over settings key w' := by
  induction hr with
  | refl => exact h
  | tail _ hs ih => exact ih.step hs

theorem not_creates (h : Over settings key w) : ¬ Creates w key w' := by
  rintro ⟨running, pending, -⟩
  have hst := h.tracked.staged running
  rw [pending] at hst
  obtain ⟨read, hheard, -, -, unfinished, -⟩ := hst.creating_inv
  exact unfinished (h.read running pending (hheard ▸ List.mem_cons_self))

/-- Once the invocation of a key has stored a status that is over, the build is. -/
theorem of_patches (hw : Tracked settings key w) (hp : Patches w key w')
    (hc : w'.store.imageBuilds.get? key = some c) (hover : c.recorded.phase.isTerminal) :
    Over settings key w' where
  tracked := hw.step hp.turn
  stored hb := by
    cases hb.symm.trans hc
    exact hover
  read hi pending _ := absurd hp (hw.staged.not_changed hi pending).1

end Over

/-- For a guarded image build that is not over the job is created anew once it has vanished. -/
theorem creates_once_vanished (hq : w.store.Quiet) (hk : snapshotKey c = key)
    (hc : w.store.imageBuilds.get? key = some c) (alive : ¬ c.isBeingDeleted) (held : c.hasFinalizer)
    (unfinished : ¬ c.recorded.phase.isTerminal) (built : ownedBuilderJob c settings = .ok job) :
    ∃ u u', Reaches settings (KeepsStatus key) w u ∧ Creates u key u' := by
  let s : Store := { w.store with jobs := w.store.jobs.erase (jobKey key) }
  have hs : s.Quiet := ⟨hq.failures, hq.stalled⟩
  have vacant : s.jobs.get? (jobKey key) = none := Table.get?_erase_self _ _
  have hkey := ownedBuilderJob_key built hk
  obtain ⟨next, hcreating, -⟩ := reconcileJobless_of_built key unfinished built ⟨0, 0⟩
  have hactive := fun w i => World.withActive_active_self w key i
  have hleft : Reaches settings (KeepsStatus key) w _ := .single (.leave w key)
  have hvanished := hleft.tail (.outside (t := s) (.of_eq rfl))
  have hbegun := hvanished.tail (.begin ⟨0, 0⟩ (hactive _ none))
  have hread := hbegun.tail (.call (hactive _ _) rfl (hs.answer_eq (.imageBuildRead hc)))
  have hlooked := hread.tail (.call (hactive _ _) (reconcileRead_of_guarded key alive held ⟨0, 0⟩)
    (hs.answer_eq (.jobRead vacant)))
  exact ⟨_, _, hlooked, .succeeds (hactive _ _) hcreating
    (hs.answer_eq (.jobCreated (hkey ▸ vacant)))⟩

/-- Once an invocation has recorded that the job of a build has succeeded, the build is over, or waits
to be published. When it is over, no job is created for it any more. When it waits, and nothing fails
and a job can still be made, the job is created anew once it has vanished. -/
theorem success_final_unless_published (hr : Reaches settings (KeepsStatus key) (.idle s) w)
    (hp : RecordsSuccess w key b w') :
    ∃ c, w'.store.imageBuilds.get? key = some c ∧
      c.recorded.Says .builderJobReady .true ∧ c.recorded.completionTime.isSome ∧
      (c.recorded.phase.isTerminal ∧
          (∀ u u', Reaches settings (KeepsStatus key) w' u → ¬ Creates u key u') ∨
        c.recorded.phase = .publishing ∧ b.spec.publish.isSome ∧
          (w'.store.Quiet → snapshotKey c = key → ¬ c.isBeingDeleted → c.hasFinalizer →
            (∃ job, ownedBuilderJob c settings = .ok job) →
            ∃ u u', Reaches settings (KeepsStatus key) w' u ∧ Creates u key u')) := by
  have hw : Tracked settings key w := (Tracked.idle s).run hr
  obtain ⟨c, start, completion, now, hc, hrecorded⟩ := hp.stored hw.staged
  refine ⟨c, hc, ?_, ?_, ?_⟩
  · rw [hrecorded]
    exact says_jobObserved _ (by simp [JobState.values])
  · obtain ⟨_, -, heq⟩ := jobObserved_eq b (builderJobName key.name) (.succeeded start completion)
    rw [hrecorded, heq]
    simp [JobState.completionTime]
  · have hphase := success_phase (b.recorded.refresh b.metadata.generation now) b
      (builderJobName key.name) start completion now
    rw [← hrecorded] at hphase
    rcases hphase with hover | ⟨hopen, hpublish⟩
    · refine Or.inl ⟨hover, ?_⟩
      intro u u' hu
      exact ((Over.of_patches hw hp.patches hc hover).run hu).not_creates
    · refine Or.inr ⟨hopen, hpublish, ?_⟩
      rintro hq hk alive held ⟨job, built⟩
      have unfinished : ¬ c.recorded.phase.isTerminal := by
        rw [hopen]
        decide
      exact creates_once_vanished hq hk hc alive held unfinished built

def builtStore (b : ImageBuild) : Store :=
  (({} : Store).addImageBuild b).insertJob "images"
    { metadata := { name := some "imgbldr-web" }, status := some { succeeded := some 1 } }

theorem plain_success_recorded :
    ∃ w b w', Reaches {} (KeepsStatus ⟨"images", "web"⟩) (.idle (builtStore plainImageBuild)) w ∧
      RecordsSuccess w ⟨"images", "web"⟩ b w' ∧ b.spec.publish = none := by
  let key : Key := ⟨"images", "web"⟩
  have hactive := fun w i => World.withActive_active_self w key (some i)
  have hbegun := Relation.ReflTransGen.single
    (@Turn.begin {} (KeepsStatus key) (.idle (builtStore plainImageBuild)) key ⟨0, 0⟩ rfl)
  have hread := hbegun.tail (.call (hactive _ _) rfl rfl)
  have hlooked := hread.tail (.call (hactive _ _) rfl rfl)
  exact ⟨_, _, _, hlooked, ⟨.succeeds (hactive _ _) rfl rfl, _, _, _, _, hactive _ _,
    .head _, .tail _ (.head _), Bool.false_ne_true, rfl⟩, rfl⟩

/-- For a plain image build no job is ever created after its success was recorded. -/
theorem plain_success_final :
    ∃ w b w', Reaches {} (KeepsStatus ⟨"images", "web"⟩) (.idle (builtStore plainImageBuild)) w ∧
      RecordsSuccess w ⟨"images", "web"⟩ b w' ∧
      ∀ u u', Reaches {} (KeepsStatus ⟨"images", "web"⟩) w' u → ¬ Creates u ⟨"images", "web"⟩ u' := by
  obtain ⟨w, b, w', hr, hp, hpublish⟩ := plain_success_recorded
  obtain ⟨c, -, -, -, ⟨-, hnever⟩ | ⟨-, hsome, -⟩⟩ := success_final_unless_published hr hp
  · exact ⟨w, b, w', hr, hp, hnever⟩
  · simp [hpublish] at hsome

def publishedImageBuild : ImageBuild :=
  { plainImageBuild with spec := { plainImageBuild.spec with
    publish := some { aws := some ⟨"us-east-1", "web", "t3.small", "staging", "aws"⟩, maas := none } } }

/-- After the success of a build that is to be published was recorded, with its condition and its time,
and the job has vanished, the job is created anew. -/
theorem published_build_rerun :
    ∃ w b w' c u u',
      Reaches {} (KeepsStatus ⟨"images", "web"⟩) (.idle (builtStore publishedImageBuild)) w ∧
      RecordsSuccess w ⟨"images", "web"⟩ b w' ∧
      w'.store.imageBuilds.get? ⟨"images", "web"⟩ = some c ∧
      c.recorded.Says .builderJobReady .true ∧ c.recorded.completionTime.isSome ∧
      Reaches {} (KeepsStatus ⟨"images", "web"⟩) w' u ∧ Creates u ⟨"images", "web"⟩ u' := by
  let key : Key := ⟨"images", "web"⟩
  have hactive := fun w i => World.withActive_active_self w key (some i)
  have hbegun := Relation.ReflTransGen.single
    (@Turn.begin {} (KeepsStatus key) (.idle (builtStore publishedImageBuild)) key ⟨0, 0⟩ rfl)
  have hread := hbegun.tail (.call (hactive _ _) rfl rfl)
  have hlooked := hread.tail (.call (hactive _ _) rfl rfl)
  obtain ⟨w, b, w', c, hr, hp, hc, hq, hk, alive, held, hopen, hready, htime, hbuilt⟩ :
      ∃ w b w' c, Reaches {} (KeepsStatus key) (.idle (builtStore publishedImageBuild)) w ∧
        RecordsSuccess w key b w' ∧ w'.store.imageBuilds.get? key = some c ∧ w'.store.Quiet ∧
        snapshotKey c = key ∧ ¬ c.isBeingDeleted ∧ c.hasFinalizer ∧
        c.recorded.phase = .publishing ∧ c.recorded.Says .builderJobReady .true ∧
        c.recorded.completionTime.isSome ∧ (ownedBuilderJob c {}).isOk :=
    ⟨_, _, _, _, hlooked, ⟨.succeeds (hactive _ _) rfl rfl, _, _, _, _, hactive _ _, .head _,
      .tail _ (.head _), Bool.false_ne_true, rfl⟩, rfl, ⟨rfl, rfl⟩, rfl, Bool.false_ne_true, rfl, rfl,
      ⟨_, rfl, rfl⟩, rfl, by decide +kernel⟩
  obtain ⟨job, built⟩ : ∃ job, ownedBuilderJob c {} = .ok job := by
    cases hj : ownedBuilderJob c {} with
    | ok job => exact ⟨job, rfl⟩
    | error e => simp [hj, Except.isOk, Except.toBool] at hbuilt
  obtain ⟨u, u', hu, hcreates⟩ :=
    creates_once_vanished hq hk hc alive held (by simp [hopen, Phase.isTerminal]) built
  exact ⟨w, b, w', c, u, u', hr, hp, hc, hready, htime, hu, hcreates⟩

end ImageForge.Controller
