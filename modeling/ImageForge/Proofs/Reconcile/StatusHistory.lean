import ImageForge.Proofs.Reconcile.Aging
import ImageForge.Proofs.Reconcile.Interleaving

/-! The statuses that an image build has one after another. A status is followed only by one that renews
it. -/
namespace ImageForge.Controller

open Cluster ImageBuildStatus

/-- Nothing has written the status of the image build of a key, or put another one in its place; all
else may have changed. -/
def KeepsStatus (key : Key) (s t : Store) : Prop :=
  ∀ b', t.imageBuilds.get? key = some b' →
    ∃ b, s.imageBuilds.get? key = some b ∧ b'.recorded = b.recorded

variable {settings : BuilderSettings} {key k : Key} {s t : Store} {w w' : World} {i : Invocation}

theorem KeepsStatus.of_eq (h : t.imageBuilds.get? key = s.imageBuilds.get? key) :
    KeepsStatus key s t := fun b' hb' => ⟨b', h.symm.trans hb', rfl⟩

theorem KeepsStatus.of_put {b b' : ImageBuild} (hb : s.imageBuilds.get? k = some b)
    (ht : t.imageBuilds = s.imageBuilds.put k b') (hs : b'.recorded = b.recorded) :
    KeepsStatus key s t := by
  intro c hc
  rw [ht, Table.get?_put] at hc
  split at hc
  next hk =>
    cases hc
    exact ⟨b, hk ▸ hb, hs⟩
  next => exact ⟨c, hc, rfl⟩

theorem KeepsStatus.of_success {r : Request} {x : r.Reply} (h : Store.Success s r x t)
    (hr : ∀ status, r ≠ .patchStatus key status) : KeepsStatus key s t := by
  cases h with
  | imageBuildRead _ | jobRead _ | jobCreated _ => exact .of_eq rfl
  | finalizerAdded stored _ | finalizerRemoved stored _ _ => exact .of_put stored rfl rfl
  | released _ _ _ _ =>
    intro b' hb'
    simp only [Store.removed, Store.record, Store.collectGarbage_imageBuilds,
      Table.get?_erase] at hb'
    split at hb'
    · cases hb'
    · exact ⟨b', hb', rfl⟩
  | statusPatched status _ =>
    refine .of_eq (Table.get?_put_of_ne ?_ _ _)
    rintro rfl
    exact hr status rfl
  | jobDeleted _ => exact .of_eq (by simp [Store.record])

theorem KeepsStatus.of_answer {r : Request} {a : Answer r} (h : s.answer r = some (a, t))
    (hr : ∀ status, r ≠ .patchStatus key status) : KeepsStatus key s t := by
  obtain ⟨e, -, hsame⟩ | ⟨x, -, hsucc⟩ := Store.answer_cases h
  · exact .of_eq (congrArg (Table.get? · key) hsame.imageBuilds)
  · exact .of_success hsucc hr

/-- The invocation of a key stores a status. -/
inductive Patches (w : World) (key : Key) : World → Prop
  | succeeds {i status next t} (running : w.active key = some i)
      (pending : i.rest = .call (.patchStatus key status) next)
      (answer : w.store.answer (.patchStatus key status) = some (.ok (), t)) :
      Patches w key (World.withActive ⟨t, w.active⟩ key
        (some ⟨i.now, i.heard ++ [⟨.patchStatus key status, .ok ()⟩], next (.ok ())⟩))

theorem Patches.turn {outside : Store → Store → Prop} (h : Patches w key w') :
    Turn settings outside w w' := by
  cases h with
  | succeeds running pending answer => exact .call running pending answer

/-- Invocations are at their points, and the status that the one of a key has read is still there
while it goes on. -/
structure Tracked (settings : BuilderSettings) (key : Key) (w : World) : Prop where
  staged : Staged settings w
  fresh : ∀ {i b r next stored}, w.active key = some i → sawImageBuild key b ∈ i.heard →
    i.rest = .call r next → w.store.imageBuilds.get? key = some stored →
      stored.recorded = b.recorded

theorem Staged.keeps_of_ne (h : Staged settings w) {r : Request}
    {next : Answer r → Reconciliation} {a : Answer r} (running : w.active k = some i)
    (pending : i.rest = .call r next) (answer : w.store.answer r = some (a, t)) (hne : k ≠ key) :
    KeepsStatus key w.store t := by
  refine .of_answer answer ?_
  rintro status rfl
  have hst := h running
  rw [pending] at hst
  obtain ⟨_, _, hkey, -⟩ := hst.recording_inv
  exact hne hkey.symm

/-- A turn stores the status of an image build through the invocation of its key, or keeps it. -/
theorem Staged.patches_or_keeps (h : Staged settings w)
    (hs : Turn settings (KeepsStatus key) w w') :
    Patches w key w' ∨ KeepsStatus key w.store w'.store := by
  cases hs with
  | begin _ _ | leave _ => exact Or.inr (.of_eq rfl)
  | outside change => exact Or.inr change
  | @call k i r next a t running pending answer =>
    by_cases hk : k = key
    · subst hk
      by_cases hr : ∃ status, r = .patchStatus k status
      · obtain ⟨status, rfl⟩ := hr
        cases a with
        | ok x => exact Or.inl (.succeeds running pending answer)
        | error e => exact Or.inr (.of_eq (congrArg (Table.get? · k)
            (Store.answer_sameObjects answer rfl).imageBuilds))
      · exact Or.inr (.of_answer answer fun status he => hr ⟨status, he⟩)
    · exact Or.inr (h.keeps_of_ne running pending answer hk)

namespace Tracked

theorem idle (s : Store) : Tracked settings key (.idle s) :=
  ⟨.idle s, fun h => by cases h⟩

theorem step (h : Tracked settings key w) (hs : Turn settings (KeepsStatus key) w w') :
    Tracked settings key w' := by
  refine ⟨h.staged.step hs, ?_⟩
  intro j b r' next' stored hk hb hp hstored
  cases hs with
  | begin now free =>
    obtain ⟨rfl, hj⟩ | ⟨-, hj⟩ := World.active_withActive hk
    · cases hj
      cases hb
    · exact h.fresh hj hb hp hstored
  | @call k i r next a t running pending answer =>
    obtain ⟨rfl, hj⟩ | ⟨hne, hj⟩ := World.active_withActive hk
    · cases hj
      have hst := h.staged running
      rw [pending] at hst
      -- The invocation goes on, so the call has changed nothing: what was read is still stored.
      have hsame := (hst.sameObjects_of_pending answer hp).imageBuilds
      have hstored : w.store.imageBuilds.get? key = some stored := hsame ▸ hstored
      rcases Stage.saw_answered answer hb with hb | hb
      · exact h.fresh running hb pending hstored
      · cases hb.symm.trans hstored
        rfl
    · obtain ⟨c, hc, hcs⟩ := h.staged.keeps_of_ne running pending answer hne.symm stored hstored
      exact hcs.trans (h.fresh hj hb hp hc)
  | leave key =>
    obtain ⟨-, hj⟩ | ⟨-, hj⟩ := World.active_withActive hk
    · cases hj
    · exact h.fresh hj hb hp hstored
  | outside change =>
    obtain ⟨c, hc, hcs⟩ := change stored hstored
    exact hcs.trans (h.fresh hk hb hp hc)

theorem run (h : Tracked settings key w) (hr : Reaches settings (KeepsStatus key) w w') :
    Tracked settings key w' := by
  induction hr with
  | refl => exact h
  | tail _ hs ih => exact ih.step hs

theorem renews (h : Tracked settings key w) (hp : Patches w key w') :
    ∃ b b', w.store.imageBuilds.get? key = some b ∧ w'.store.imageBuilds.get? key = some b' ∧
      Renews (builderJobName key.name) b.recorded b'.recorded := by
  cases hp with
  | @succeeds i _ _ _ running pending answer =>
    have hst := h.staged running
    rw [pending] at hst
    obtain ⟨read, f, -, hheard, -, rfl⟩ := hst.recording_inv
    have hsaw : sawImageBuild key read ∈ i.heard := by
      rw [hheard]
      exact List.mem_cons_self
    obtain ⟨e, he, -⟩ | ⟨x, -, hsucc⟩ := Store.answer_cases answer
    · cases he
    · cases hsucc with
      | statusPatched status stored =>
        have hread := h.fresh running hsaw pending stored
        refine ⟨_, _, stored, Table.get?_put_self _ _ _, ?_⟩
        rw [hread]
        exact f.status_renews key read _

/-- Through a run the status ages. -/
theorem ages (h : Tracked settings key w) (hr : Reaches settings (KeepsStatus key) w w') :
    ∀ b', w'.store.imageBuilds.get? key = some b' →
      ∃ b, w.store.imageBuilds.get? key = some b ∧
        Ages (builderJobName key.name) b.recorded b'.recorded := by
  induction hr with
  | refl => exact fun b hb => ⟨b, hb, .refl _ _⟩
  | @tail u v hu hs ih =>
    intro b' hb'
    obtain ⟨c, hc, hages⟩ : ∃ c, u.store.imageBuilds.get? key = some c ∧
        Ages (builderJobName key.name) c.recorded b'.recorded := by
      rcases (h.run hu).staged.patches_or_keeps hs with hpatch | hkeeps
      · obtain ⟨c, c', hc, hc', hrenews⟩ := (h.run hu).renews hpatch
        cases hc'.symm.trans hb'
        exact ⟨c, hc, hrenews.ages⟩
      · obtain ⟨c, hc, hcs⟩ := hkeeps b' hb'
        exact ⟨c, hc, hcs ▸ .refl _ _⟩
    obtain ⟨b, hb, hbc⟩ := ih c hc
    exact ⟨b, hb, hbc.trans hages⟩

end Tracked

/-- While nothing else writes it, the status of an image build changes only where the invocation of its
key stores one, and that one renews the status it takes the place of. So from any point of a run to any
later one the status ages. -/
theorem status_only_renewed (hr : Reaches settings (KeepsStatus key) (.idle s) w) :
    (∀ w', Patches w key w' →
      ∃ b b', w.store.imageBuilds.get? key = some b ∧ w'.store.imageBuilds.get? key = some b' ∧
        Renews (builderJobName key.name) b.recorded b'.recorded) ∧
    (∀ w', Turn settings (KeepsStatus key) w w' →
      Patches w key w' ∨ KeepsStatus key w.store w'.store) ∧
    ∀ w', Reaches settings (KeepsStatus key) w w' →
      ∀ b', w'.store.imageBuilds.get? key = some b' →
        ∃ b, w.store.imageBuilds.get? key = some b ∧
          Ages (builderJobName key.name) b.recorded b'.recorded := by
  have hw : Tracked settings key w := (Tracked.idle s).run hr
  exact ⟨fun _ => hw.renews, fun _ => hw.staged.patches_or_keeps, fun _ => hw.ages⟩

def startedStore : Store :=
  (({} : Store).addImageBuild plainImageBuild).insertJob "images"
    { metadata := { name := some "imgbldr-web" } }

theorem running_recorded (outside : Store → Store → Prop) :
    ∃ w w' b', Reaches {} outside (.idle startedStore) w ∧ Patches w ⟨"images", "web"⟩ w' ∧
      w'.store.imageBuilds.get? ⟨"images", "web"⟩ = some b' ∧ b'.recorded.phase = .building := by
  let key : Key := ⟨"images", "web"⟩
  have hbegun := Relation.ReflTransGen.single
    (@Turn.begin {} outside (.idle startedStore) key ⟨0, 0⟩ rfl)
  have hread := hbegun.tail (.call (World.withActive_active_self _ key _) rfl rfl)
  have hlooked := hread.tail (.call (World.withActive_active_self _ key _) rfl rfl)
  exact ⟨_, _, _, hlooked, .succeeds (World.withActive_active_self _ key _) rfl rfl, rfl, rfl⟩

/-- That the job is running renews the status of a plain image build. -/
theorem running_renews_plain_status :
    ∃ w w' b b', Reaches {} (KeepsStatus ⟨"images", "web"⟩) (.idle startedStore) w ∧
      Patches w ⟨"images", "web"⟩ w' ∧
      w.store.imageBuilds.get? ⟨"images", "web"⟩ = some b ∧
      w'.store.imageBuilds.get? ⟨"images", "web"⟩ = some b' ∧
      b'.recorded.phase = .building ∧
      Renews (builderJobName "web") b.recorded b'.recorded := by
  obtain ⟨w, w', b', hr, hp, hb', hphase⟩ := running_recorded (KeepsStatus ⟨"images", "web"⟩)
  obtain ⟨b, c, hb, hc, hrenews⟩ := (status_only_renewed hr).1 w' hp
  cases hb'.symm.trans hc
  exact ⟨w, w', b, b', hr, hp, hb, hb', hphase, hrenews⟩

end ImageForge.Controller
