import ImageForge.Proofs.Reconcile.Stage
import Mathlib.Data.List.Basic
import Mathlib.Logic.Function.Basic
import Mathlib.Logic.Relation

/-! Invocations of the reconciler at work on one cluster. They take turns with each other and with
whatever else happens, but no two of them are for one image build. -/
namespace ImageForge

/-- An image build without its version and the mark that it is being deleted. -/
def ImageBuild.content (b : ImageBuild) : ImageBuild :=
  { b with metadata := { b.metadata with deletionTimestamp := none, resourceVersion := none } }

theorem ImageBuild.hasFinalizer_of_content {b b' : ImageBuild} (h : b'.content = b.content)
    (hb : b.hasFinalizer) : b'.hasFinalizer :=
  (congrArg ImageBuild.hasFinalizer h).trans hb

namespace Cluster

def addedKey (b : ImageBuild) : Key := ⟨b.metadata.ns.getD "default", b.metadata.displayName⟩

def addedUid (b : ImageBuild) : String :=
  b.metadata.uid.getD ("uid-" ++ (addedKey b).ns ++ "-" ++ (addedKey b).name)

def asAdded (b : ImageBuild) (version : String) : ImageBuild :=
  { b with metadata := { b.metadata with
    ns := some (addedKey b).ns
    uid := some (addedUid b)
    generation := some (b.metadata.generation.getD 1)
    resourceVersion := some version } }

theorem Store.addImageBuild_imageBuilds (s : Store) (b : ImageBuild) :
    (s.addImageBuild b).imageBuilds =
      s.imageBuilds.put (addedKey b) (asAdded b s.nextVersion) := rfl

/-- What happens to a cluster from outside the reconciler. Image builds are added as far as
`admits` lets them; jobs are deleted by others through a call of their own or simply vanish. -/
inductive Outside (admits : Store → ImageBuild → Prop) : Store → Store → Prop
  | added {s} (b : ImageBuild) (new : admits s b) : Outside admits s (s.addImageBuild b)
  | marked (s : Store) (key : Key) : Outside admits s (s.markForDeletion key)
  | jobReported (s : Store) (key : Key) (status : JobStatus) :
      Outside admits s (s.setJobStatus key status)
  | jobVanished (s : Store) (key : Key) : Outside admits s { s with jobs := s.jobs.erase key }
  | jobDeleted (s : Store) (key : Key) :
      Outside admits s ((s.deleteJob key).record (.jobDeleted key))
  | deletionsHeld (s : Store) (hold : Bool) : Outside admits s (s.setHoldJobDeletions hold)
  | deletionsCompleted (s : Store) : Outside admits s s.completeJobDeletions
  | failing (s : Store) (op : Operation) (f : Injected) : Outside admits s (s.inject op f)
  | stalling (s : Store) (op : Operation) : Outside admits s (s.stall op)

/-- Nothing is stored where the image build would be added. -/
def Unused (s : Store) (b : ImageBuild) : Prop := s.imageBuilds.get? (addedKey b) = none

variable {admits : Store → ImageBuild → Prop} {s t : Store} {k : Key} {b : ImageBuild}

theorem Store.WellKeyed.outside (h : s.WellKeyed) (ho : Outside admits s t) : t.WellKeyed := by
  cases ho with
  | added b _ => exact h.added b
  | marked key =>
    simp only [Store.markForDeletion]
    split
    · exact h
    next b hb =>
      have hk := h _ _ hb
      split
      · exact h.of_erase (Store.collectGarbage_imageBuilds _)
      · exact h.of_put rfl hk
  | jobReported key status =>
    simp only [Store.setJobStatus]
    split
    · exact h
    · exact h.of_eq rfl
  | jobDeleted key => exact h.of_eq (Store.deleteJob_imageBuilds key)
  | jobVanished _ | deletionsHeld _ | deletionsCompleted | failing _ _ | stalling _ =>
    exact h.of_eq rfl

theorem Outside.mono {admits' : Store → ImageBuild → Prop} (h : Outside admits s t)
    (hle : ∀ s b, admits s b → admits' s b) : Outside admits' s t := by
  cases h with
  | added b new => exact .added b (hle s b new)
  | marked key => exact .marked s key
  | jobReported key status => exact .jobReported s key status
  | jobVanished key => exact .jobVanished s key
  | jobDeleted key => exact .jobDeleted s key
  | deletionsHeld hold => exact .deletionsHeld s hold
  | deletionsCompleted => exact .deletionsCompleted s
  | failing op f => exact .failing s op f
  | stalling op => exact .stalling s op

/-- What carries a finalizer stays, and nothing but the reconciler changes its content. -/
theorem Outside.content_kept (ho : Outside admits s t) (hu : ∀ s b, admits s b → Unused s b)
    (hb : s.imageBuilds.get? k = some b) (hf : b.hasFinalizer) :
    ∃ b', t.imageBuilds.get? k = some b' ∧ b'.content = b.content := by
  cases ho with
  | added c new =>
    have hne : k ≠ addedKey c := by
      rintro rfl
      cases hb.symm.trans (hu _ _ new)
    exact ⟨b, (Table.get?_put_of_ne hne _ _).trans hb, rfl⟩
  | marked key =>
    simp only [Store.markForDeletion]
    split
    · exact ⟨b, hb, rfl⟩
    next c hc =>
      by_cases hk : k = key
      · subst hk
        cases hb.symm.trans hc
        -- Only an object without finalizers goes at once.
        have hne : ¬ b.metadata.finalizerList.isEmpty := by
          intro he
          simp [ImageBuild.hasFinalizer, List.isEmpty_iff.mp he] at hf
        split
        next he => exact absurd he hne
        next => exact ⟨_, Table.get?_put_self _ _ _, rfl⟩
      · split
        · rw [Store.collectGarbage_imageBuilds]
          exact ⟨b, (Table.get?_erase_of_ne hk _).trans hb, rfl⟩
        · exact ⟨b, (Table.get?_put_of_ne hk _ _).trans hb, rfl⟩
  | jobReported key status =>
    simp only [Store.setJobStatus]
    split <;> exact ⟨b, hb, rfl⟩
  | jobDeleted key =>
    simp only [Store.record, Store.deleteJob_imageBuilds]
    exact ⟨b, hb, rfl⟩
  | jobVanished _ | deletionsHeld _ | deletionsCompleted | failing _ _ | stalling _ =>
    exact ⟨b, hb, rfl⟩

end Cluster

namespace Controller

open Cluster

/-- An invocation that is under way: when it looked at its clock, the calls that were answered, and
the rest of its program. -/
structure Invocation where
  now : Instant
  heard : List Exchange
  rest : Reconciliation

/-- A cluster, and the invocations under way, at most one for each key. -/
structure World where
  store : Store
  active : Key → Option Invocation

def World.idle (s : Store) : World := ⟨s, fun _ => none⟩

def World.withActive (w : World) (key : Key) (i : Option Invocation) : World :=
  ⟨w.store, Function.update w.active key i⟩

/-- One turn: an invocation begins, has its next call answered, or leaves, over or cut off by its
deadline; or the cluster changes from outside. -/
inductive Turn (settings : BuilderSettings) (outside : Store → Store → Prop) :
    World → World → Prop
  | begin {w key} (now : Instant) (free : w.active key = none) :
      Turn settings outside w
        (w.withActive key (some ⟨now, [], reconcile settings key now⟩))
  | call {w key i r next a t} (running : w.active key = some i) (pending : i.rest = .call r next)
      (answer : w.store.answer r = some (a, t)) :
      Turn settings outside w
        (World.withActive ⟨t, w.active⟩ key (some ⟨i.now, i.heard ++ [⟨r, a⟩], next a⟩))
  | leave (w : World) (key : Key) : Turn settings outside w (w.withActive key none)
  | outside {w t} (change : outside w.store t) : Turn settings outside w ⟨t, w.active⟩

/-- What a run leads to, turn by turn. -/
abbrev Reaches (settings : BuilderSettings) (outside : Store → Store → Prop) :
    World → World → Prop :=
  Relation.ReflTransGen (Turn settings outside)

variable {settings : BuilderSettings} {admits : Store → ImageBuild → Prop}
  {outside : Store → Store → Prop} {w w' : World} {key k : Key} {i : Invocation}

@[simp]
theorem World.withActive_active_self (w : World) (key : Key) (o : Option Invocation) :
    (w.withActive key o).active key = o := by
  simp [withActive]

theorem World.active_withActive {o : Option Invocation}
    (h : (w.withActive key o).active k = some i) :
    k = key ∧ o = some i ∨ k ≠ key ∧ w.active k = some i := by
  by_cases hk : k = key
  · subst hk
    exact Or.inl ⟨rfl, by simpa [withActive] using h⟩
  · exact Or.inr ⟨hk, by simpa [withActive, Function.update_of_ne hk] using h⟩

theorem Turn.active_inv (hs : Turn settings outside w w') (h : w'.active key = some i) :
    w.active key = some i ∨ (∃ now, i = ⟨now, [], reconcile settings key now⟩) ∨
      ∃ j r next a, w.active key = some j ∧ j.rest = .call r next ∧
        w.store.answer r = some (a, w'.store) ∧ i = ⟨j.now, j.heard ++ [⟨r, a⟩], next a⟩ := by
  cases hs with
  | begin now free =>
    obtain ⟨rfl, hj⟩ | ⟨-, hj⟩ := World.active_withActive h
    · cases hj
      exact Or.inr (Or.inl ⟨now, rfl⟩)
    · exact Or.inl hj
  | call running pending answer =>
    obtain ⟨rfl, hj⟩ | ⟨-, hj⟩ := World.active_withActive h
    · cases hj
      exact Or.inr (Or.inr ⟨_, _, _, _, running, pending, answer, rfl⟩)
    · exact Or.inl hj
  | leave k =>
    obtain ⟨-, hj⟩ | ⟨-, hj⟩ := World.active_withActive h
    · cases hj
    · exact Or.inl hj
  | outside _ => exact Or.inl h

theorem Turn.mono {outside' : Store → Store → Prop} (h : Turn settings outside w w')
    (hle : ∀ s t, outside s t → outside' s t) : Turn settings outside' w w' := by
  cases h with
  | begin now free => exact .begin now free
  | call running pending answer => exact .call running pending answer
  | leave key => exact .leave w key
  | outside change => exact .outside (hle _ _ change)

/-- Every invocation under way is at one of its points. -/
def Staged (settings : BuilderSettings) (w : World) : Prop :=
  ∀ ⦃key i⦄, w.active key = some i → Stage settings key i.now i.heard i.rest

theorem Staged.idle (s : Store) : Staged settings (.idle s) := fun _ _ h => by cases h

/-- An invocation that goes on is at a point again, whatever happens around it. -/
theorem Staged.step (h : Staged settings w) (hs : Turn settings outside w w') :
    Staged settings w' := by
  intro key i hi
  obtain hold | ⟨now, rfl⟩ | ⟨j, r, next, a, running, pending, -, rfl⟩ := hs.active_inv hi
  · exact h hold
  · exact .first settings key now
  · have hst := h running
    rw [pending] at hst
    exact hst.answered a

theorem Staged.run (h : Staged settings w) (hr : Reaches settings outside w w') :
    Staged settings w' := by
  induction hr with
  | refl => exact h
  | tail _ hs ih => exact ih.step hs

/-- While an invocation that has read a guarded image build is under way, the image build stays
stored, with the content that was read. -/
def Current (s : Store) (key : Key) (i : Invocation) : Prop :=
  ∀ b r next, sawImageBuild key b ∈ i.heard → b.hasFinalizer → i.rest = .call r next →
    ∃ stored, s.imageBuilds.get? key = some stored ∧ stored.content = b.content

/-- Every invocation under way is at one of its points, and what it has read is still so. -/
structure Coherent (settings : BuilderSettings) (w : World) : Prop where
  wellKeyed : w.store.WellKeyed
  stage : ∀ {key i}, w.active key = some i → Stage settings key i.now i.heard i.rest
  keyed : ∀ {key i}, w.active key = some i → Stage.Keyed key i.heard
  current : ∀ {key i}, w.active key = some i → Current w.store key i

theorem Coherent.idle {s : Store} (hs : s.WellKeyed) : Coherent settings (.idle s) :=
  ⟨hs, fun h => (by cases h), fun h => (by cases h), fun h => (by cases h)⟩

theorem Current.of_other {s t : Store} {r : Request} {a : Answer r} (hc : Current s k i)
    (ha : s.answer r = some (a, t)) (hr : r.target? ≠ some k) : Current t k i := by
  intro b r' next hb hf hp
  rw [Store.answer_imageBuilds_of_ne ha hr]
  exact hc b r' next hb hf hp

/-- An invocation that goes on after an answer has changed nothing, so what it has read, last or
before, is still so. -/
theorem Current.answered {s t : Store} {r : Request} {next : Answer r → Reconciliation}
    {a : Answer r} (hc : Current s key i) (pending : i.rest = .call r next)
    (hst : Stage settings key i.now i.heard (.call r next)) (ha : s.answer r = some (a, t)) :
    Current t key ⟨i.now, i.heard ++ [⟨r, a⟩], next a⟩ := by
  intro b r' next' hb hf hp
  rw [(hst.sameObjects_of_pending ha hp).imageBuilds]
  rcases Stage.saw_answered ha hb with hb | hb
  · exact hc b r next hb hf pending
  · exact ⟨b, hb, rfl⟩

theorem Coherent.staged (h : Coherent settings w) : Staged settings w := fun _ _ hk => h.stage hk

theorem Coherent.step (h : Coherent settings w) (hu : ∀ s b, admits s b → Unused s b)
    (hs : Turn settings (Outside admits) w w') : Coherent settings w' := by
  have hstaged : Staged settings w' := h.staged.step hs
  cases hs with
  | begin now free =>
    refine ⟨h.wellKeyed, fun hk => hstaged hk, ?_, ?_⟩
    all_goals
      intro k j hk
      obtain ⟨rfl, hj⟩ | ⟨-, hj⟩ := World.active_withActive hk
    · cases hj
      exact .nil _
    · exact h.keyed hj
    · cases hj
      intro b r next hb
      cases hb
    · exact h.current hj
  | @call key i r next a t running pending answer =>
    have hst := h.stage running
    rw [pending] at hst
    refine ⟨h.wellKeyed.answer answer, fun hk => hstaged hk, ?_, ?_⟩
    all_goals
      intro k j hk
      obtain ⟨rfl, hj⟩ | ⟨hne, hj⟩ := World.active_withActive hk
    · cases hj
      exact (h.keyed running).answered h.wellKeyed answer
    · exact h.keyed hj
    · cases hj
      exact (h.current running).answered pending hst answer
    · exact (h.current hj).of_other answer fun ht =>
        hne (hst.target_eq (h.keyed running) ht)
  | leave key =>
    refine ⟨h.wellKeyed, fun hk => hstaged hk, ?_, ?_⟩
    all_goals
      intro k j hk
      obtain ⟨-, hj⟩ | ⟨-, hj⟩ := World.active_withActive hk
      · cases hj
    · exact h.keyed hj
    · exact h.current hj
  | outside change =>
    refine ⟨h.wellKeyed.outside change, fun hk => hstaged hk, h.keyed, ?_⟩
    intro k j hj b r next hb hf hp
    obtain ⟨c, hc, hcc⟩ := h.current hj b r next hb hf hp
    obtain ⟨c', hc', hcc'⟩ :=
      change.content_kept hu hc (ImageBuild.hasFinalizer_of_content hcc hf)
    exact ⟨c', hc', hcc'.trans hcc⟩

/-- Invocations stay coherent with the cluster through every run. -/
theorem Coherent.run (h : Coherent settings w) (hu : ∀ s b, admits s b → Unused s b)
    (hr : Reaches settings (Outside admits) w w') : Coherent settings w' := by
  induction hr with
  | refl => exact h
  | tail _ hs ih => exact ih.step hu hs

end Controller

end ImageForge
