import ImageForge.Proofs.Reconcile.Aging

/-! What an invocation stores in a status rests on what the cluster holds when the invocation begins. -/
namespace ImageForge.Controller

open Cluster

variable {settings : BuilderSettings} {key k : Key} {now : Instant} {s t : Store} {b : ImageBuild}
  {d : ImageBuildStatus} {heard : List Exchange} {r : Request} {a : Answer r} {f : Finding}

/-- What was read so far is what a store holds. -/
structure UpToDate (key : Key) (s : Store) (heard : List Exchange) : Prop where
  imageBuild : ∀ b, sawImageBuild key b ∈ heard → s.imageBuilds.get? key = some b
  job : ∀ found, sawJob key found ∈ heard → s.jobs.get? (jobKey key) = found

theorem UpToDate.nil (key : Key) (s : Store) : UpToDate key s [] where
  imageBuild _ h := (by cases h)
  job _ h := (by cases h)

theorem UpToDate.answered (h : UpToDate key s heard) (ha : s.answer r = some (a, t))
    (same : s.SameObjects t) : UpToDate key t (heard ++ [⟨r, a⟩]) where
  imageBuild b hb := by
    rw [same.imageBuilds]
    obtain hb | stored := Stage.saw_answered ha hb
    · exact h.imageBuild b hb
    · exact stored
  job found hj := by
    rw [same.jobs]
    obtain hj | stored := Stage.sawJob_answered ha hj
    · exact h.job found hj
    · exact stored

def Finding.job? : Finding → Option Job
  | .absent | .refused _ _ | .unbuildable _ => none
  | .terminating job | .observed job => some job

theorem Finding.sawJob_mem_heard (key : Key) (f : Finding) : sawJob key f.job? ∈ f.heard key := by
  cases f <;> exact List.mem_cons_self

/-- A finding about the image build of a key that is news, given what a store holds. -/
structure News (settings : BuilderSettings) (key : Key) (now : Instant) (s : Store) (b : ImageBuild)
    (f : Finding) : Prop where
  stored : s.imageBuilds.get? key = some b
  alive : ¬ b.isBeingDeleted
  held : b.hasFinalizer
  holds : Finding.Holds settings b f
  job : s.jobs.get? (jobKey key) = f.job?
  changed : b.recorded ≠ f.status key b now

theorem News.of_sameObjects (h : News settings key now t b f) (same : s.SameObjects t) :
    News settings key now s b f :=
  { h with stored := same.imageBuilds ▸ h.stored, job := same.jobs ▸ h.job }

/-- What an invocation is about to store tells news. -/
theorem Stage.recording_news {next : Answer (.patchStatus k d) → Reconciliation}
    (h : Stage settings key now heard (.call (.patchStatus k d) next)) (hs : UpToDate key s heard) :
    k = key ∧ ∃ b f, News settings key now s b f ∧ d = f.status key b now := by
  cases h with
  | recording alive held found news _ =>
    exact ⟨rfl, _, _, ⟨hs.imageBuild _ List.mem_cons_self, alive, held, found,
      hs.job _ (List.mem_cons_of_mem _ (Finding.sawJob_mem_heard key _)), news⟩, rfl⟩

theorem Stage.patches_news {p : Reconciliation} (h : Stage settings key now heard p)
    (hs : UpToDate key s heard) (hp : .patchStatus k d ∈ (p.run s).calls) :
    k = key ∧ ∃ b f, News settings key now s b f ∧ d = f.status key b now := by
  induction p generalizing s heard with
  | done result => cases hp
  | call r next ih =>
    cases ha : s.answer r with
    | none =>
      simp only [Program.run, ha, List.mem_singleton] at hp
      subst hp
      exact h.recording_news hs
    | some answered =>
      obtain ⟨a, t⟩ := answered
      simp only [Program.run, ha, List.mem_cons] at hp
      obtain rfl | hp := hp
      · exact h.recording_news hs
      · cases hnext : next a with
        | done result =>
          rw [hnext] at hp
          cases hp
        | call r' next' =>
          have same := h.sameObjects_of_pending ha hnext
          obtain ⟨hk, b, f, hnews, hd⟩ := ih a (h.answered a) (hs.answered ha same) hp
          exact ⟨hk, b, f, hnews.of_sameObjects same, hd⟩

/-- A status that an invocation stores tells news of its image build. -/
theorem reconcile_patches_news (hp : .patchStatus k d ∈ ((reconcile settings key now).run s).calls) :
    k = key ∧ ∃ b f, News settings key now s b f ∧ d = f.status key b now :=
  (Stage.first settings key now).patches_news (.nil key s) hp

end ImageForge.Controller
