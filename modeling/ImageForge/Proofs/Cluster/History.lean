import ImageForge.Proofs.Cluster.Versions
import ImageForge.Proofs.Reconcile.Construction

/-! The finalizers of an image build through the history of a cluster. One is written only to the object
that the writer has seen, so no write undoes another one. -/
namespace ImageForge.Cluster

/-- What a writer does to a list of finalizers. -/
inductive Edit
  | add (finalizer : String)
  | remove (finalizer : String)

namespace Edit

def finalizer : Edit → String
  | .add f | .remove f => f

/-- The list after the edit: a finalizer is put at the end unless it is there, or is dropped wherever it
is. -/
def apply : Edit → List String → List String
  | .add f, fs => if f ∈ fs then fs else fs ++ [f]
  | .remove f, fs => fs.filter (· ≠ f)

theorem withFinalizer_eq (fs : List String) (f : String) :
    Store.withFinalizer fs f = (add f).apply fs := rfl

theorem withoutFinalizer_eq (fs : List String) (f : String) :
    Store.withoutFinalizer fs f = (remove f).apply fs := rfl

def request (snap : ImageBuild) : Edit → Request
  | .add f => .addFinalizer snap f
  | .remove f => .removeFinalizer snap f

/-- What an edit is not about stays as it is, in its order. -/
theorem filter_apply {own : String → Bool} (e : Edit) (fs : List String)
    (h : own e.finalizer = true) : (e.apply fs).filter (!own ·) = fs.filter (!own ·) := by
  cases e with
  | add f =>
    have hf : own f = true := h
    rw [apply]
    split
    · rfl
    · simp [hf]
  | remove f =>
    have hf : own f = true := h
    rw [apply, List.filter_filter]
    refine List.filter_congr fun g _ => ?_
    by_cases hg : g = f
    · simp [hg, hf]
    · simp [hg]

theorem mem_apply {f : String} (e : Edit) (fs : List String) (h : f ≠ e.finalizer) :
    f ∈ e.apply fs ↔ f ∈ fs := by
  cases e with
  | add g =>
    have hfg : f ≠ g := h
    rw [apply]
    split <;> simp [hfg]
  | remove g =>
    have hfg : f ≠ g := h
    simp [apply, hfg]

end Edit

/-- The edit that an answered call has made to the finalizers of the image build of a key. -/
def Exchange.edit? (k : Key) : Exchange → Option Edit
  | ⟨.addFinalizer snap f, .ok _⟩ => if snapshotKey snap = k then some (.add f) else none
  | ⟨.removeFinalizer snap f, .ok _⟩ => if snapshotKey snap = k then some (.remove f) else none
  | _ => none

/-- What happens on a cluster: a call is answered, an image build is added, or something else changes. -/
inductive Occurrence
  | answered (x : Exchange)
  | added (b : ImageBuild)
  | changed

namespace Occurrence

def read (k : Key) (snap : ImageBuild) : Occurrence :=
  .answered ⟨.getImageBuild k, .ok (some snap)⟩

def edit? (k : Key) : Occurrence → Option Edit
  | .answered x => x.edit? k
  | .added _ | .changed => none

end Occurrence

/-- Finalizers are written only from what was read before. -/
def FromSnapshot (past : List Occurrence) (r : Request) : Prop :=
  ∀ snap edit, r = Edit.request snap edit → ∃ k, .read k snap ∈ past

/-- What has happened on a cluster since it was empty. Anybody makes calls, at any time, and anything may
happen in between; only the finalizers are written from snapshots. -/
inductive History : List Occurrence → Store → Prop
  | empty : History [] {}
  | call {past s r a t} (before : History past s) (seen : FromSnapshot past r)
      (answer : s.answer r = some (a, t)) : History (past ++ [.answered ⟨r, a⟩]) t
  | add {past s} (before : History past s) (b : ImageBuild) :
      History (past ++ [.added b]) (s.addImageBuild b)
  | change {past s t} (before : History past s) (outside : Outside (fun _ _ => False) s t) :
      History (past ++ [.changed]) t
  | insertJob {past s} (before : History past s) (ns : String) (job : Job) :
      History (past ++ [.changed]) (s.insertJob ns job)

variable {past : List Occurrence} {s t : Store} {r : Request} {a : Answer r} {k : Key}
  {b b' snap : ImageBuild} {o : Occurrence}

theorem Store.error_of_commit {event : Event} {result : Except ClusterError Store}
    {e : ClusterError} (h : perform.commit s event result = (.error e, t)) : result = .error e := by
  cases result with
  | ok u => cases h
  | error e' =>
    cases h
    rfl

theorem Store.writeFinalizers_error {fs : List String} {e : ClusterError}
    (h : s.writeFinalizers snap fs = .error e) :
    s.imageBuilds.get? (snapshotKey snap) = none ∧
        e = .notFound (imageBuildText (snapshotKey snap)) ∨
      ∃ b, s.imageBuilds.get? (snapshotKey snap) = some b ∧
        b.metadata.resourceVersion ≠ snap.metadata.resourceVersion ∧
        e = .conflict (imageBuildText (snapshotKey snap)) := by
  cases hb : s.imageBuilds.get? (snapshotKey snap) with
  | none =>
    simp only [Store.writeFinalizers, hb, Except.error.injEq] at h
    exact Or.inl ⟨rfl, h.symm⟩
  | some b =>
    by_cases hv : snap.metadata.resourceVersion.isSome →
        b.metadata.resourceVersion = snap.metadata.resourceVersion
    · rw [Store.writeFinalizers_eq hb hv] at h
      split at h <;> cases h
    · have hstale := Classical.not_imp.mp hv
      simp only [Store.writeFinalizers, hb, if_pos (And.intro hstale.1 hstale.2),
        Except.error.injEq] at h
      exact Or.inr ⟨b, rfl, hstale.2, h.symm⟩

theorem Edit.written {edit : Edit} {x : (edit.request snap).Reply}
    (h : Store.Success s (edit.request snap) x t) :
    ∃ b, s.imageBuilds.get? (snapshotKey snap) = some b ∧
      (snap.metadata.resourceVersion.isSome →
        b.metadata.resourceVersion = snap.metadata.resourceVersion) ∧
      ∀ b', t.imageBuilds.get? (snapshotKey snap) = some b' →
        b'.metadata.finalizerList = edit.apply snap.metadata.finalizerList := by
  cases edit with
  | add f =>
    cases h with
    | @finalizerAdded _ b _ stored current =>
      refine ⟨b, stored, current, fun b' hb' => ?_⟩
      cases (Table.get?_put_self _ _ _).symm.trans hb'
      exact ImageBuild.written_finalizerList.trans (withFinalizer_eq _ f)
  | remove f =>
    cases h with
    | @finalizerRemoved _ b _ stored current _ =>
      refine ⟨b, stored, current, fun b' hb' => ?_⟩
      cases (Table.get?_put_self _ _ _).symm.trans hb'
      exact ImageBuild.written_finalizerList.trans (withoutFinalizer_eq _ f)
    | @released _ b _ stored current _ _ =>
      refine ⟨b, stored, current, fun b' hb' => ?_⟩
      simp only [Store.removed, Store.record, Store.collectGarbage_imageBuilds,
        Table.get?_erase_self] at hb'
      cases hb'

/-- A finalizer that cannot be written leaves the cluster as it was, and the reason is what is stored. -/
theorem Edit.refused {edit : Edit} {e : ClusterError}
    (h : s.perform (edit.request snap) = (.error e, t)) :
    s.imageBuilds.get? (snapshotKey snap) = none ∧
        e = .notFound (imageBuildText (snapshotKey snap)) ∨
      ∃ b, s.imageBuilds.get? (snapshotKey snap) = some b ∧
        b.metadata.resourceVersion ≠ snap.metadata.resourceVersion ∧
        e = .conflict (imageBuildText (snapshotKey snap)) := by
  have hw : s.writeFinalizers snap (edit.apply snap.metadata.finalizerList) = .error e := by
    cases edit with
    | add f | remove f => exact Store.error_of_commit h
  exact Store.writeFinalizers_error hw

theorem Seen.stored_of_written (h : Seen s k snap) {edit : Edit} {x : (edit.request snap).Reply}
    (hs : Store.Success s (edit.request snap) x t) : s.imageBuilds.get? k = some snap := by
  obtain ⟨b, stored, current, -⟩ := Edit.written hs
  obtain ⟨n, -, hv⟩ := h.versioned
  rw [h.key] at stored
  have hsame := h.same b stored (current (by rw [hv]; rfl))
  rw [stored, hsame]

theorem Seen.refused (h : Seen s k snap) {edit : Edit} {e : ClusterError}
    (hp : s.perform (edit.request snap) = (.error e, t)) :
    s.imageBuilds.get? k ≠ some snap ∧ t = s ∧
      ((∃ what, e = .conflict what) ∨ ∃ what, e = .notFound what) := by
  refine ⟨?_, Store.store_of_perform_error hp, ?_⟩
  · intro stored
    obtain ⟨gone, -⟩ | ⟨b, hb, hv, -⟩ := Edit.refused hp
    · rw [h.key, stored] at gone
      cases gone
    · rw [h.key, stored] at hb
      cases hb
      exact hv rfl
  · obtain ⟨-, he⟩ | ⟨b, -, -, he⟩ := Edit.refused hp
    · exact Or.inr ⟨_, he⟩
    · exact Or.inl ⟨_, he⟩

/-- The finalizers that an occurrence leaves to the image build of a key. -/
def Occurrence.leaves (k : Key) (o : Occurrence) (fs : List String) : List String :=
  (o.edit? k).elim fs (·.apply fs)

/-- The image build of a key was added, and the edits since then, one after another, have made its
finalizers what they are. -/
def Derived (past : List Occurrence) (k : Key) (b : ImageBuild) : Prop :=
  ∃ earlier first since, past = earlier ++ .added first :: since ∧ addedKey first = k ∧
    (∀ c, .added c ∈ since → addedKey c ≠ k) ∧
    b.metadata.finalizerList =
      (since.filterMap (·.edit? k)).foldl (fun fs edit => edit.apply fs)
        first.metadata.finalizerList

theorem Derived.snoc (h : Derived past k b) (ho : ∀ c, o = .added c → addedKey c ≠ k)
    (hb : b'.metadata.finalizerList = o.leaves k b.metadata.finalizerList) :
    Derived (past ++ [o]) k b' := by
  obtain ⟨earlier, first, since, rfl, hk, hnew, hfs⟩ := h
  refine ⟨earlier, first, since ++ [o], by simp, hk, fun c hc => ?_, ?_⟩
  · rcases List.mem_append.mp hc with hc | hc
    · exact hnew c hc
    · exact ho c (List.mem_singleton.mp hc).symm
  · rw [hb, hfs, List.filterMap_append, List.foldl_append, Occurrence.leaves]
    cases he : o.edit? k <;> simp [he]

theorem Exchange.edit?_error (r : Request) (e : ClusterError) :
    Exchange.edit? k ⟨r, .error e⟩ = none := by
  cases r <;> rfl

/-- After a call, the finalizers of what is stored are those from before, with the edit of the call. -/
theorem finalizers_answered (hsnap : ∀ snap edit, r = Edit.request snap edit →
      Seen s (snapshotKey snap) snap)
    (ha : s.answer r = some (a, t)) (hb : t.imageBuilds.get? k = some b') :
    ∃ b, s.imageBuilds.get? k = some b ∧ b'.metadata.finalizerList =
      (Occurrence.answered ⟨r, a⟩).leaves k b.metadata.finalizerList := by
  obtain ⟨e, rfl, hs⟩ | ⟨x, rfl, hs⟩ := Store.answer_cases ha
  · rw [hs.imageBuilds] at hb
    refine ⟨b', hb, ?_⟩
    rw [Occurrence.leaves, Occurrence.edit?, Exchange.edit?_error]
    rfl
  · by_cases hk : r.target? = some k
    · cases r with
      | getImageBuild _ | getJob _ | createJob _ _ | deleteJob _ => cases hk
      | patchStatus k' status =>
        cases hk
        cases hs with
        | @statusPatched _ b _ stored =>
          cases (Table.get?_put_self _ _ _).symm.trans hb
          exact ⟨b, stored, rfl⟩
      | addFinalizer snap f =>
        cases hk
        have hs : Store.Success s (Edit.request snap (.add f)) x t := hs
        obtain ⟨_, -, -, hfs⟩ := Edit.written hs
        refine ⟨snap, (hsnap snap (.add f) rfl).stored_of_written hs, ?_⟩
        rw [hfs b' hb, Occurrence.leaves, Occurrence.edit?, Exchange.edit?, if_pos rfl]
        rfl
      | removeFinalizer snap f =>
        cases hk
        have hs : Store.Success s (Edit.request snap (.remove f)) x t := hs
        obtain ⟨_, -, -, hfs⟩ := Edit.written hs
        refine ⟨snap, (hsnap snap (.remove f) rfl).stored_of_written hs, ?_⟩
        rw [hfs b' hb, Occurrence.leaves, Occurrence.edit?, Exchange.edit?, if_pos rfl]
        rfl
    · -- The call is about another image build.
      rw [hs.imageBuilds_of_ne hk] at hb
      refine ⟨b', hb, ?_⟩
      have hnone : Exchange.edit? k ⟨r, .ok x⟩ = none := by
        cases r with
        | getImageBuild _ | getJob _ | createJob _ _ | deleteJob _ | patchStatus _ _ => rfl
        | addFinalizer snap f | removeFinalizer snap f =>
          exact if_neg fun he => hk (congrArg some he)
      rw [Occurrence.leaves, Occurrence.edit?, hnone]
      rfl

theorem Outside.finalizerList_eq (ho : Outside (fun _ _ => False) s t)
    (hb : t.imageBuilds.get? k = some b') :
    ∃ b, s.imageBuilds.get? k = some b ∧
      b'.metadata.finalizerList = b.metadata.finalizerList := by
  cases ho with
  | added _ new => exact new.elim
  | marked key =>
    simp only [Store.markForDeletion] at hb
    split at hb
    · exact ⟨b', hb, rfl⟩
    next c hc =>
      split at hb
      · simp only [Store.collectGarbage_imageBuilds, Table.get?_erase] at hb
        split at hb
        · cases hb
        · exact ⟨b', hb, rfl⟩
      · simp only [Table.get?_put] at hb
        split at hb
        next hk =>
          cases hb
          exact ⟨c, hk ▸ hc, rfl⟩
        next => exact ⟨b', hb, rfl⟩
  | jobReported key status =>
    simp only [Store.setJobStatus] at hb
    split at hb <;> exact ⟨b', hb, rfl⟩
  | jobDeleted key =>
    simp only [Store.record, Store.deleteJob_imageBuilds] at hb
    exact ⟨b', hb, rfl⟩
  | jobVanished _ | deletionsHeld _ | deletionsCompleted | failing _ _ | stalling _ =>
    exact ⟨b', hb, rfl⟩

/-- What is known of a cluster and of what has happened on it. -/
structure Traced (past : List Occurrence) (s : Store) : Prop where
  wellKeyed : s.WellKeyed
  versioned : Versioned s
  seen : ∀ k snap, .read k snap ∈ past → Seen s k snap
  derived : ∀ k b, s.imageBuilds.get? k = some b → Derived past k b

namespace Traced

theorem empty : Traced [] {} where
  wellKeyed := .empty
  versioned _ _ hb := by cases hb
  seen _ _ h := by cases h
  derived _ _ hb := by cases hb

theorem seen_snoc (h : Traced past s) (ht : s.Advances t)
    (ho : ∀ k snap, o = .read k snap → s.imageBuilds.get? k = some snap) :
    ∀ k snap, .read k snap ∈ past ++ [o] → Seen t k snap := by
  intro k snap hr
  rcases List.mem_append.mp hr with hr | hr
  · exact (h.seen k snap hr).advance ht
  · have stored := ho k snap (List.mem_singleton.mp hr).symm
    exact (Seen.of_stored h.wellKeyed h.versioned stored).advance ht

theorem call (h : Traced past s) (seen : FromSnapshot past r)
    (ha : s.answer r = some (a, t)) : Traced (past ++ [.answered ⟨r, a⟩]) t where
  wellKeyed := h.wellKeyed.answer ha
  versioned := h.versioned.advance (Store.answer_advances ha)
  seen := by
    refine h.seen_snoc (Store.answer_advances ha) fun k snap hr => ?_
    cases hr
    obtain ⟨e, he, -⟩ | ⟨x, hx, hs⟩ := Store.answer_cases ha
    · cases he
    · cases hx
      cases hs with
      | imageBuildRead stored => exact stored
  derived k b' hb' := by
    have hsnap : ∀ snap edit, r = Edit.request snap edit → Seen s (snapshotKey snap) snap := by
      intro snap edit hr
      obtain ⟨k, hk⟩ := seen snap edit hr
      have hseen := h.seen k snap hk
      exact hseen.key ▸ hseen
    obtain ⟨b, hb, hfs⟩ := finalizers_answered hsnap ha hb'
    exact (h.derived k b hb).snoc (fun _ hc => by cases hc) hfs

theorem add (h : Traced past s) (b : ImageBuild) :
    Traced (past ++ [.added b]) (s.addImageBuild b) where
  wellKeyed := h.wellKeyed.added b
  versioned := h.versioned.advance (Store.addImageBuild_advances b)
  seen := by
    refine h.seen_snoc (Store.addImageBuild_advances b) fun k snap hr => ?_
    cases hr
  derived k b' hb' := by
    rw [Store.addImageBuild_imageBuilds, Table.get?_put] at hb'
    split at hb'
    next hk =>
      cases hb'
      exact ⟨past, b, [], rfl, hk.symm, fun _ hc => (by cases hc), rfl⟩
    next hk =>
      refine (h.derived k b' hb').snoc (fun c hc => ?_) rfl
      cases hc
      exact fun he => hk he.symm

theorem change (h : Traced past s) (ht : s.Advances t) (hk : t.WellKeyed)
    (hfs : ∀ k b', t.imageBuilds.get? k = some b' → ∃ b, s.imageBuilds.get? k = some b ∧
      b'.metadata.finalizerList = b.metadata.finalizerList) :
    Traced (past ++ [.changed]) t where
  wellKeyed := hk
  versioned := h.versioned.advance ht
  seen := by
    refine h.seen_snoc ht fun k snap hr => ?_
    cases hr
  derived k b' hb' := by
    obtain ⟨b, hb, hfs⟩ := hfs k b' hb'
    exact (h.derived k b hb).snoc (fun _ hc => by cases hc) hfs

end Traced

theorem History.traced (h : History past s) : Traced past s := by
  induction h with
  | empty => exact .empty
  | call _ seen answer ih => exact ih.call seen answer
  | add _ b ih => exact ih.add b
  | change _ outside ih =>
    exact ih.change (.outside outside) (ih.wellKeyed.outside outside)
      fun _ _ hb => outside.finalizerList_eq hb
  | insertJob _ ns job ih =>
    exact ih.change (.of_eq rfl (Nat.le_refl _)) (ih.wellKeyed.of_eq rfl)
      fun _ b hb => ⟨b, hb, rfl⟩

theorem filter_edits {own : String → Bool} (edits : List Edit) (fs : List String)
    (h : ∀ edit ∈ edits, own edit.finalizer = true) :
    (edits.foldl (fun fs edit => edit.apply fs) fs).filter (!own ·) = fs.filter (!own ·) := by
  induction edits generalizing fs with
  | nil => rfl
  | cons edit edits ih =>
    rw [List.foldl_cons, ih _ fun e he => h e (List.mem_cons_of_mem edit he),
      Edit.filter_apply edit fs (h edit List.mem_cons_self)]

/-- No update of finalizers is lost. A finalizer is written exactly where the stored object is still the
writer's snapshot, and is refused without any change where it is not; so the finalizers of an object are
always those that it was added with after all edits since then, and those that no edit was about are kept
in their order. -/
theorem no_finalizer_update_lost (h : History past s) :
    (∀ k snap edit (a : Answer (Edit.request snap edit)) t, .read k snap ∈ past →
      s.answer (edit.request snap) = some (a, t) →
      ((∃ x, a = .ok x) → s.imageBuilds.get? k = some snap) ∧
      (s.injected? (edit.request snap).operation = none →
        (s.imageBuilds.get? k = some snap → ∃ x, a = .ok x) ∧
        ∀ e, a = .error e → t = s ∧
          ((∃ what, e = .conflict what) ∨ ∃ what, e = .notFound what))) ∧
    ∀ k b, s.imageBuilds.get? k = some b → ∃ earlier first since,
      past = earlier ++ .added first :: since ∧ addedKey first = k ∧
      (∀ c, .added c ∈ since → addedKey c ≠ k) ∧
      b.metadata.finalizerList =
        (since.filterMap (·.edit? k)).foldl (fun fs edit => edit.apply fs)
          first.metadata.finalizerList ∧
      ∀ own : String → Bool,
        (∀ edit ∈ since.filterMap (·.edit? k), own edit.finalizer) →
        b.metadata.finalizerList.filter (!own ·) =
          first.metadata.finalizerList.filter (!own ·) := by
  have ht := h.traced
  constructor
  · intro k snap edit a t hr ha
    have hseen := ht.seen k snap hr
    have hok : (∃ x, a = .ok x) → s.imageBuilds.get? k = some snap := by
      rintro ⟨x, rfl⟩
      obtain ⟨e, he, -⟩ | ⟨x', -, hs⟩ := Store.answer_cases ha
      · cases he
      · exact hseen.stored_of_written hs
    refine ⟨hok, fun hi => ?_⟩
    -- Without an injected failure the call is carried out, and only the store can refuse it.
    have hp : s.perform (edit.request snap) = (a, t) := by
      simp only [Store.answer, hi] at ha
      split at ha
      · cases ha
      · exact Option.some.inj ha
    cases a with
    | ok x => exact ⟨fun _ => ⟨x, rfl⟩, fun e he => by cases he⟩
    | error e =>
      obtain ⟨hother, hts, he⟩ := hseen.refused hp
      refine ⟨fun stored => absurd stored hother, fun e' he' => ?_⟩
      cases he'
      exact ⟨hts, he⟩
  · intro k b hb
    obtain ⟨earlier, first, since, hpast, hk, hnew, hfs⟩ := ht.derived k b hb
    refine ⟨earlier, first, since, hpast, hk, hnew, hfs, fun own hown => ?_⟩
    rw [hfs]
    exact filter_edits _ _ hown

def plainFirst : ImageBuild := asAdded Controller.plainImageBuild "1"

def plainSecond : ImageBuild := plainFirst.written [ImageBuild.operatorFinalizer, "backup"] "2"

/-- The clusters that hold them, and the one in which a finalizer was removed as well. -/
def firstStore : Store := ({} : Store).addImageBuild Controller.plainImageBuild

def secondStore : Store := (firstStore.perform (.addFinalizer plainFirst "backup")).2

def thirdStore : Store :=
  (secondStore.perform (.removeFinalizer plainSecond ImageBuild.operatorFinalizer)).2

/-- Two writers have one snapshot, and the first adds a finalizer. The other one is refused, also when the
object is read anew by someone who removes a finalizer; what was added stays. -/
theorem second_writer_refused :
    ∃ past, History past thirdStore ∧ .read ⟨"images", "web"⟩ plainFirst ∈ past ∧
      past.filterMap (·.edit? ⟨"images", "web"⟩) =
        [.add "backup", .remove ImageBuild.operatorFinalizer] ∧
      (∃ e, thirdStore.answer (.addFinalizer plainFirst "audit") = some (.error e, thirdStore) ∧
        ((∃ what, e = .conflict what) ∨ ∃ what, e = .notFound what)) ∧
      (thirdStore.imageBuilds.get? ⟨"images", "web"⟩).map (·.metadata.finalizerList) =
        some ["backup"] := by
  let key : Key := ⟨"images", "web"⟩
  have hread : History [.added Controller.plainImageBuild, .read key plainFirst] firstStore :=
    (History.empty.add Controller.plainImageBuild).call (r := .getImageBuild key)
      (fun _ edit hr => by cases edit <;> cases hr) rfl
  have hadds : FromSnapshot [.added Controller.plainImageBuild, .read key plainFirst]
      (.addFinalizer plainFirst "backup") := by
    rintro c (f | f) hr <;> cases hr
    exact ⟨key, by simp⟩
  have hadded : History _ secondStore := hread.call hadds rfl
  have hreread : History _ secondStore := hadded.call (r := .getImageBuild key)
    (a := .ok (some plainSecond)) (fun _ edit hr => by cases edit <;> cases hr) rfl
  have hremoves : FromSnapshot ([.added Controller.plainImageBuild, .read key plainFirst] ++
      [.answered ⟨.addFinalizer plainFirst "backup", .ok ()⟩] ++ [.read key plainSecond])
      (.removeFinalizer plainSecond ImageBuild.operatorFinalizer) := by
    rintro c (f | f) hr <;> cases hr
    exact ⟨key, by simp⟩
  have hremoved : History _ thirdStore := hreread.call hremoves rfl
  refine ⟨_, hremoved, by simp [key], rfl, ⟨.conflict "ImageBuild images/web", rfl, ?_⟩, rfl⟩
  have hwrite := (no_finalizer_update_lost hremoved).1 key plainFirst (.add "audit")
    (.error (.conflict "ImageBuild images/web")) _ (by simp) rfl
  exact ((hwrite.2 rfl).2 _ rfl).2

end ImageForge.Cluster
