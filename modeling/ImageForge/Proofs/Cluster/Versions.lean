import ImageForge.Proofs.Reconcile.Interleaving

/-! The versions that a cluster gives out. They count up, and none is given out twice. -/
namespace ImageForge.Cluster

namespace Store

variable {s t : Store} {r : Request} {a : Answer r} {k : Key} {b : ImageBuild}

/-- Whatever image build is new in the second store has the next version of the first. -/
structure Advances (s t : Store) : Prop where
  version_le : s.version ≤ t.version
  imageBuild : ∀ k b, t.imageBuilds.get? k = some b → s.imageBuilds.get? k = some b ∨
    b.metadata.resourceVersion = some s.nextVersion ∧ s.version < t.version

theorem Advances.of_eq (h : t.imageBuilds = s.imageBuilds) (hv : s.version ≤ t.version) :
    Advances s t where
  version_le := hv
  imageBuild _ _ hb := Or.inl (h ▸ hb)

theorem Advances.of_erase (h : t.imageBuilds = s.imageBuilds.erase k)
    (hv : s.version ≤ t.version) : Advances s t where
  version_le := hv
  imageBuild k' b hb := by
    rw [h, Table.get?_erase] at hb
    split at hb
    · cases hb
    · exact Or.inl hb

theorem Advances.of_put (h : t.imageBuilds = s.imageBuilds.put k b)
    (hb : b.metadata.resourceVersion = some s.nextVersion) (hv : s.version < t.version) :
    Advances s t where
  version_le := Nat.le_of_lt hv
  imageBuild k' b' hg := by
    rw [h, Table.get?_put] at hg
    split at hg
    · cases hg
      exact Or.inr ⟨hb, hv⟩
    · exact Or.inl hg

@[simp]
theorem collectGarbage_version (uid : Option String) :
    (s.collectGarbage uid).version = s.version := by
  cases uid <;> rfl

@[simp]
theorem deleteJob_version (k : Key) : (s.deleteJob k).version = s.version := by
  unfold deleteJob
  split
  · split <;> rfl
  · rfl

theorem Success.advances {x : r.Reply} (h : Success s r x t) : Advances s t := by
  cases h with
  | imageBuildRead _ | jobRead _ => exact .of_eq rfl (Nat.le_refl _)
  | finalizerAdded _ _ | finalizerRemoved _ _ _ | statusPatched _ _ =>
    exact .of_put rfl rfl (Nat.lt_succ_self _)
  | released _ _ _ _ =>
    refine .of_erase (collectGarbage_imageBuilds _) ?_
    simp [removed, record, bump]
  | jobCreated _ => exact .of_eq rfl (Nat.le_succ _)
  | jobDeleted k =>
    refine .of_eq (deleteJob_imageBuilds k) ?_
    simp [record]

theorem answer_advances (h : s.answer r = some (a, t)) : Advances s t := by
  simp only [answer] at h
  split at h
  · cases h
  · split at h
    next f _ =>
      cases h
      exact .of_eq rfl (Nat.le_refl _)
    next =>
      simp only [Option.some.injEq] at h
      cases a with
      | error e =>
        rw [store_of_perform_error h]
        exact .of_eq rfl (Nat.le_refl _)
      | ok x => exact (success_of_perform h).advances

theorem nextVersion_ne {n : Nat} (h : n ≤ s.version) : s.nextVersion ≠ toString n := by
  intro he
  have hdigits : Nat.toDigits 10 (s.version + 1) = Nat.toDigits 10 n := by
    simpa [nextVersion] using congrArg String.toList he
  have hread := congrArg (Nat.ofDigitChars 10 · 0) hdigits
  simp only [Nat.ofDigitChars_ten_toDigits] at hread
  omega

theorem addImageBuild_advances (b : ImageBuild) : Advances s (s.addImageBuild b) :=
  .of_put (addImageBuild_imageBuilds s b) rfl (Nat.lt_succ_self _)

theorem Advances.outside {admits : Store → ImageBuild → Prop} (h : Outside admits s t) :
    Advances s t := by
  cases h with
  | added b _ => exact addImageBuild_advances b
  | marked key =>
    simp only [markForDeletion]
    split
    · exact .of_eq rfl (Nat.le_refl _)
    · split
      · refine .of_erase (collectGarbage_imageBuilds _) ?_
        simp [bump]
      · exact .of_put rfl rfl (Nat.lt_succ_self _)
  | jobReported key status =>
    simp only [setJobStatus]
    split <;> exact .of_eq rfl (Nat.le_refl _)
  | jobDeleted key =>
    refine .of_eq (deleteJob_imageBuilds key) ?_
    simp [record]
  | jobVanished _ | deletionsHeld _ | deletionsCompleted | failing _ _ | stalling _ =>
    exact .of_eq rfl (Nat.le_refl _)

end Store

variable {s t : Store} {k : Key} {snap : ImageBuild}

/-- Every stored version was given out by the cluster. -/
def Versioned (s : Store) : Prop :=
  ∀ k b, s.imageBuilds.get? k = some b →
    ∃ n ≤ s.version, b.metadata.resourceVersion = some (toString n)

theorem Versioned.advance (h : Versioned s) (ht : s.Advances t) : Versioned t := by
  intro k b hb
  obtain hb | ⟨hv, hlt⟩ := ht.imageBuild k b hb
  · obtain ⟨n, hn, hv⟩ := h k b hb
    exact ⟨n, Nat.le_trans hn ht.version_le, hv⟩
  · exact ⟨s.version + 1, hlt, hv⟩

/-- A snapshot has a version that was given out, and what is stored under this version is the same. -/
structure Seen (s : Store) (k : Key) (snap : ImageBuild) : Prop where
  key : snapshotKey snap = k
  versioned : ∃ n ≤ s.version, snap.metadata.resourceVersion = some (toString n)
  same : ∀ b, s.imageBuilds.get? k = some b →
    b.metadata.resourceVersion = snap.metadata.resourceVersion → b = snap

theorem Seen.of_stored (hk : s.WellKeyed) (hv : Versioned s) (h : s.imageBuilds.get? k = some snap) :
    Seen s k snap where
  key := hk k snap h
  versioned := hv k snap h
  same _ hb _ := Option.some.inj (hb.symm.trans h)

theorem Seen.advance (h : Seen s k snap) (ht : s.Advances t) : Seen t k snap := by
  obtain ⟨n, hn, hv⟩ := h.versioned
  refine ⟨h.key, ⟨n, Nat.le_trans hn ht.version_le, hv⟩, fun b hb he => ?_⟩
  obtain hb | ⟨hnew, -⟩ := ht.imageBuild k b hb
  · exact h.same b hb he
  · exact absurd (Option.some.inj (hnew.symm.trans (he.trans hv))) (Store.nextVersion_ne hn)

end ImageForge.Cluster
