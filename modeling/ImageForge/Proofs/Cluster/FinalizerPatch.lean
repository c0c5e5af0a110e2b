import ImageForge.Proofs.Cluster.History
import ImageForge.Proofs.Resource.MetadataPatch

/-! Finalizers in a cluster in memory, and finalizers that are sent to a server as a merge patch. What
both leave behind is the same. -/
namespace ImageForge

open Json

/-- The same image build but for its version. No finalizers and an empty list of them are the same. -/
structure ImageBuild.Alike (b b' : ImageBuild) : Prop where
  finalizers : b.metadata.finalizerList = b'.metadata.finalizerList
  others :
    { b with metadata := { b.metadata with finalizers := none, resourceVersion := none } } =
      { b' with metadata := { b'.metadata with finalizers := none, resourceVersion := none } }

namespace Cluster

open Http (HttpRequest HttpResponse)

def versionOf (doc : Json) : Option Json := lookup "resourceVersion" doc.metadataFields

def mergePatchOf? (request : HttpRequest) : Option Json :=
  if request.method = "PATCH" ∧ request.contentType = some "application/merge-patch+json" then
    request.body
  else none

/-- The document of a server after a merge patch. A patch that would change the version is refused, and
what is stored gets a new one. -/
def patched? (next : String) (doc patch : Json) : Option Json :=
  let patched := doc.mergePatch patch
  if versionOf patched = none ∨ versionOf patched = versionOf doc then
    some (patched.mergePatch (metadataPatch [("resourceVersion", .str next)]))
  else none

/-- A response that tells of a patch: the object that is stored now, or a conflict. What the error of a
conflict says is not that the object exists already. -/
def Tells (response : HttpResponse) : Option Json → Prop
  | some doc => response.status = 200 ∧
    Body.imageBuild.read? response.body = (ImageBuild.ofJson doc).toOption
  | none => response.status = 409 ∧ ∀ e, Body.error.read? response.body = some e →
    e.code = 409 ∧ e.reason ≠ "AlreadyExists"

variable {s : Store} {k : Key} {b snap : ImageBuild} {doc after : Json} {response : HttpResponse}
  {request : HttpRequest} {manager version next : String} {fs : List String} {edit : Edit}

theorem finalizerPatch_eq (h : snap.metadata.resourceVersion = some version) (fs : List String) :
    Http.finalizerPatch snap fs =
      metadataPatch [("finalizers", .ofTexts fs), ("resourceVersion", .str version)] := by
  rw [Http.finalizerPatch, h, metadataPatch]

theorem versionOf_mergePatch (h : snap.metadata.resourceVersion = some version) (doc : Json)
    (fs : List String) :
    versionOf (doc.mergePatch (Http.finalizerPatch snap fs)) = some (.str version) := by
  rw [finalizerPatch_eq h, versionOf, lookup_metadata_patched (by simp) (by simp [Plain, ofTexts])]
  rfl

theorem versionOf_eq_iff (h : ImageBuild.ofJson doc = .ok b)
    (hv : snap.metadata.resourceVersion = some version) :
    some (.str version) = versionOf doc ↔
      snap.metadata.resourceVersion = b.metadata.resourceVersion := by
  rw [hv, eq_comm, versionOf, ← ImageBuild.resourceVersion_iff h, eq_comm]

theorem patched?_of_current (h : ImageBuild.ofJson doc = .ok b)
    (hv : snap.metadata.resourceVersion = some version)
    (current : snap.metadata.resourceVersion = b.metadata.resourceVersion) (next : String)
    (fs : List String) : ∃ after, patched? next doc (Http.finalizerPatch snap fs) = some after ∧
      Rewritten doc after fs next := by
  have hsame := (versionOf_eq_iff h hv).mpr current
  rw [patched?, versionOf_mergePatch hv, if_pos (Or.inr hsame)]
  refine ⟨_, rfl, ?_⟩
  rw [finalizerPatch_eq hv]
  exact rewritten_patched doc fs version next

theorem patched?_of_stale (h : ImageBuild.ofJson doc = .ok b)
    (hv : snap.metadata.resourceVersion = some version)
    (stale : snap.metadata.resourceVersion ≠ b.metadata.resourceVersion) (next : String)
    (fs : List String) : patched? next doc (Http.finalizerPatch snap fs) = none := by
  have hother : ¬ (some (Json.str version) = none ∨ some (Json.str version) = versionOf doc) := by
    rintro (hnone | hsame)
    · cases hnone
    · exact stale ((versionOf_eq_iff h hv).mp hsame)
  rw [patched?, versionOf_mergePatch hv, if_neg hother]

namespace Edit

/-- A finalizer that is there need not be added. -/
def Done (fs : List String) (edit : Edit) : Prop := ∃ f ∈ fs, edit = .add f

theorem apply_of_done (h : edit.Done fs) : edit.apply fs = fs := by
  obtain ⟨f, hf, rfl⟩ := h
  exact if_pos hf

theorem apply_add (f : String) (fs : List String) (h : f ∉ fs) :
    (Edit.add f).apply fs = fs ++ [f] := if_neg h

theorem apply_remove_sublist (f : String) (fs : List String) :
    ((Edit.remove f).apply fs).Sublist fs := List.filter_sublist

theorem not_mem_apply_remove (f : String) (fs : List String) : f ∉ (Edit.remove f).apply fs := by
  simp [apply]

theorem count_apply_remove {f g : String} (h : g ≠ f) (fs : List String) :
    ((Edit.remove f).apply fs).count g = fs.count g :=
  List.count_filter (by simp [h])

theorem apply_remove_add {f : String} (h : f ∉ fs) :
    (Edit.remove f).apply ((Edit.add f).apply fs) = fs := by
  rw [apply_add f fs h, apply, List.filter_append]
  have hothers : fs.filter (· ≠ f) = fs := by
    refine List.filter_eq_self.mpr fun g hg => ?_
    have hne : g ≠ f := by
      rintro rfl
      exact h hg
    simpa using hne
  rw [hothers]
  simp

def patch? (manager : String) (snap : ImageBuild) (edit : Edit) : Option HttpRequest :=
  Http.mergePatch? manager (Http.imageBuildPath (snapshotKey snap))
    (Http.finalizerPatch snap (edit.apply snap.metadata.finalizerList))

theorem exchange_of_done (h : edit.Done snap.metadata.finalizerList) :
    Http.exchange manager (edit.request snap) = .alreadyDone := by
  obtain ⟨f, hf, rfl⟩ := h
  simp only [Edit.request, Http.exchange, Http.finalizersToWrite?, if_pos hf]

theorem exchange_of_not_done (h : ¬ edit.Done snap.metadata.finalizerList) :
    Http.exchange manager (edit.request snap) = if (snapshotKey snap).name.isEmpty then .unsendable
      else .ofRequest? (edit.patch? manager snap) := by
  cases edit with
  | add f =>
    have hf : f ∉ snap.metadata.finalizerList := fun hf => h ⟨f, hf, rfl⟩
    simp only [Edit.request, Http.exchange, Http.finalizersToWrite?, if_neg hf, patch?, apply]
    rfl
  | remove f => rfl

theorem exchange_eq_alreadyDone_iff : Http.exchange manager (edit.request snap) = .alreadyDone ↔
    edit.Done snap.metadata.finalizerList := by
  refine ⟨fun h => Classical.byContradiction fun hnot => ?_, exchange_of_done⟩
  rw [exchange_of_not_done hnot] at h
  split at h
  · cases h
  · cases hpatch : edit.patch? manager snap with
    | none =>
      rw [hpatch] at h
      cases h
    | some request =>
      rw [hpatch] at h
      cases h

theorem exchange_eq_send_iff : Http.exchange manager (edit.request snap) = .send request ↔
    ¬ edit.Done snap.metadata.finalizerList ∧ (snapshotKey snap).name ≠ "" ∧
      edit.patch? manager snap = some request := by
  by_cases hdone : edit.Done snap.metadata.finalizerList
  · rw [exchange_of_done hdone]
    exact ⟨fun h => (by cases h), fun h => absurd hdone h.1⟩
  · rw [exchange_of_not_done hdone]
    by_cases hname : (snapshotKey snap).name = ""
    · simp [hname]
    · cases edit.patch? manager snap <;> simp [hname, hdone, Http.Exchange.ofRequest?]

theorem mergePatchOf?_of_patch? (h : edit.patch? manager snap = some request) :
    mergePatchOf? request =
      some (Http.finalizerPatch snap (edit.apply snap.metadata.finalizerList)) := by
  simp only [patch?, Http.mergePatch?, Http.write?, Http.request?] at h
  split at h
  · cases h
  · obtain ⟨_, -, rfl⟩ := Option.map_eq_some_iff.mp h
    rfl

/-- A request can be sent where its target and the name of its manager can be written. -/
theorem exists_patch? {target : Address.Target} (edit : Edit)
    (hmanager : manager.utf8ByteSize ≤ Http.maxManagerBytes)
    (htarget : Address.Target.parse? (Address.Target.withParameters
      (Http.imageBuildPath (snapshotKey snap)) [("fieldManager", manager)]) = some target) :
    ∃ request, edit.patch? manager snap = some request := by
  rw [patch?, Http.mergePatch?, Http.write?, if_neg (Nat.not_lt.mpr hmanager), Http.request?, htarget]
  exact ⟨_, rfl⟩

theorem call_of_done (h : edit.Done snap.metadata.finalizerList)
    (transport : HttpRequest → Option HttpResponse) :
    ∃ x, Http.call manager (edit.request snap) transport = (none, .ok x) := by
  rw [Http.call, exchange_of_done h]
  cases edit with
  | add f | remove f => exact ⟨(), rfl⟩

theorem answer_of_stored (h : Tells response (some after)) (hafter : ImageBuild.ofJson after = .ok b) :
    ∃ x, Http.answer (edit.request snap) (some response) = .ok x := by
  obtain ⟨hstatus, hbody⟩ := h
  have hok : ¬ (400 ≤ response.status ∧ response.status < 600) := by omega
  have hreceive : Http.receive Body.imageBuild.read? (some response) = .ok b := by
    rw [Http.receive, if_neg hok, hbody, hafter]
    rfl
  cases edit with
  | add f | remove f =>
    refine ⟨(), ?_⟩
    simp only [Edit.request, Http.answer, hreceive]
    rfl

theorem answer_of_conflict (h : Tells response none) :
    Http.answer (edit.request snap) (some response) =
      .error (.conflict (imageBuildText (snapshotKey snap))) := by
  obtain ⟨hstatus, herror⟩ := h
  have hfailed : 400 ≤ response.status ∧ response.status < 600 := by omega
  have hunread : "Failed to parse error data" ≠ "AlreadyExists" := by decide
  have hreceive : ∃ e : ApiStatus, e.code = 409 ∧ e.reason ≠ "AlreadyExists" ∧
      Http.receive Body.imageBuild.read? (some response) = .error (.status e) := by
    rw [Http.receive, if_pos hfailed]
    cases hbody : Body.error.read? response.body with
    | some e => exact ⟨e, (herror e hbody).1, (herror e hbody).2, rfl⟩
    | none => exact ⟨_, hstatus, hunread, rfl⟩
  obtain ⟨e, hcode, hreason, hreceive⟩ := hreceive
  have hconflict : ClusterError.ofFailure (.status e) (imageBuildText (snapshotKey snap)) =
      .conflict (imageBuildText (snapshotKey snap)) := by
    simp [ClusterError.ofFailure, hcode, hreason]
  cases edit with
  | add f | remove f =>
    simp only [Edit.request, Http.answer, hreceive, Http.failedFor, hconflict]
    rfl

theorem perform_of_current (stored : s.imageBuilds.get? (snapshotKey b) = some b)
    (kept : b.isBeingDeleted = false) (edit : Edit) : ∃ x t, s.perform (edit.request b) = (.ok x, t) ∧
      t.imageBuilds = s.imageBuilds.put (snapshotKey b)
        (b.written (edit.apply b.metadata.finalizerList) s.nextVersion) ∧ t.jobs = s.jobs := by
  have hcommit : ∀ fs event, Store.perform.commit s event (s.writeFinalizers b fs) =
      (.ok (), (s.replaced (snapshotKey b) (b.written fs s.nextVersion)).record event) := by
    intro fs event
    have hstays : ¬ (b.isBeingDeleted ∧ fs.isEmpty) := fun h => by simp [kept] at h
    rw [Store.writeFinalizers_eq stored (fun _ => rfl), if_neg hstays]
    rfl
  cases edit with
  | add f => exact ⟨(), _, hcommit _ (.finalizerAdded (snapshotKey b)), rfl, rfl⟩
  | remove f => exact ⟨(), _, hcommit _ (.finalizerRemoved (snapshotKey b)), rfl, rfl⟩

theorem perform_of_stale (stored : s.imageBuilds.get? (snapshotKey snap) = some b)
    (hv : snap.metadata.resourceVersion = some version)
    (stale : snap.metadata.resourceVersion ≠ b.metadata.resourceVersion) (edit : Edit) :
    s.perform (edit.request snap) = (.error (.conflict (imageBuildText (snapshotKey snap))), s) := by
  have hwrite : ∀ fs, s.writeFinalizers snap fs =
      .error (.conflict (imageBuildText (snapshotKey snap))) := by
    intro fs
    have hother : snap.metadata.resourceVersion.isSome ∧
        b.metadata.resourceVersion ≠ snap.metadata.resourceVersion :=
      ⟨by rw [hv]; rfl, Ne.symm stale⟩
    simp only [Store.writeFinalizers, stored, if_pos hother]
  cases edit with
  | add f | remove f =>
    simp only [Edit.request, Store.perform, hwrite]
    rfl

end Edit

/-- An edit that is made on both sides. In memory one image build is replaced. Over HTTP either nothing is
sent, and the object that is there is alike already; or the server accepts the patch, and its document
holds an object that is alike, with nothing else changed in it but the version. -/
structure MadeByBoth (s : Store) (k : Key) (b snap : ImageBuild) (doc : Json) (manager next : String)
    (edit : Edit) (b' : ImageBuild) : Prop where
  edited : b' = b.written (edit.apply b.metadata.finalizerList) s.nextVersion
  inMemory : ∃ x t, s.perform (edit.request snap) = (.ok x, t) ∧
    t.imageBuilds = s.imageBuilds.put k b' ∧ t.jobs = s.jobs
  done : Http.exchange manager (edit.request snap) = .alreadyDone → b.Alike b' ∧
    ∀ transport, ∃ x, Http.call manager (edit.request snap) transport = (none, .ok x)
  sent : ∀ request, Http.exchange manager (edit.request snap) = .send request →
    ∃ patch after b'', mergePatchOf? request = some patch ∧ patched? next doc patch = some after ∧
      Rewritten doc after (edit.apply b.metadata.finalizerList) next ∧
      ImageBuild.ofJson after = .ok b'' ∧ b''.Alike b' ∧
      ∀ response, Tells response (some after) →
        ∃ x, Http.answer (edit.request snap) (some response) = .ok x

/-- An edit that is a conflict on both sides, and changes nothing on either. -/
structure RefusedByBoth (s : Store) (k : Key) (snap : ImageBuild) (doc : Json) (next : String)
    (edit : Edit) (request : HttpRequest) : Prop where
  inMemory : s.perform (edit.request snap) = (.error (.conflict (imageBuildText k)), s)
  sent : ∃ patch, mergePatchOf? request = some patch ∧ patched? next doc patch = none ∧
    ∀ response, Tells response none → Http.answer (edit.request snap) (some response) =
      .error (.conflict (imageBuildText k))

theorem madeByBoth (stored : s.imageBuilds.get? (snapshotKey b) = some b)
    (kept : b.isBeingDeleted = false) (hv : b.metadata.resourceVersion = some version)
    (hdoc : ImageBuild.ofJson doc = .ok b) (manager next : String) (edit : Edit) :
    MadeByBoth s (snapshotKey b) b b doc manager next edit
      (b.written (edit.apply b.metadata.finalizerList) s.nextVersion) where
  edited := rfl
  inMemory := Edit.perform_of_current stored kept edit
  done h := by
    have hdone := Edit.exchange_eq_alreadyDone_iff.mp h
    refine ⟨⟨?_, rfl⟩, Edit.call_of_done hdone⟩
    rw [ImageBuild.written_finalizerList, Edit.apply_of_done hdone]
  sent request h := by
    have hpatch := Edit.mergePatchOf?_of_patch? (Edit.exchange_eq_send_iff.mp h).2.2
    obtain ⟨after, hafter, hrewritten⟩ := patched?_of_current hdoc hv rfl next
      (edit.apply b.metadata.finalizerList)
    have hread := ImageBuild.ofJson_of_rewritten hdoc hrewritten
    refine ⟨_, after, _, hpatch, hafter, hrewritten, hread, ⟨?_, rfl⟩,
      fun response htells => Edit.answer_of_stored htells hread⟩
    rw [ImageBuild.written_finalizerList]
    rfl

theorem refusedByBoth (stored : s.imageBuilds.get? (snapshotKey snap) = some b)
    (hv : snap.metadata.resourceVersion = some version) (hdoc : ImageBuild.ofJson doc = .ok b)
    (stale : snap.metadata.resourceVersion ≠ b.metadata.resourceVersion) (next : String)
    (hsent : Http.exchange manager (edit.request snap) = .send request) :
    RefusedByBoth s (snapshotKey snap) snap doc next edit request where
  inMemory := Edit.perform_of_stale stored hv stale edit
  sent := ⟨_, Edit.mergePatchOf?_of_patch? (Edit.exchange_eq_send_iff.mp hsent).2.2,
    patched?_of_stale hdoc hv stale next _, fun _ htells => Edit.answer_of_conflict htells⟩

/-- Finalizers come out the same in memory and over HTTP. An edit from a snapshot that is current makes
the same of the finalizers on both sides and changes nothing else but the version; one from a stale
snapshot is a conflict on both sides whenever it is sent. Nothing is sent exactly where a finalizer is to
be added that is there. Adding puts a finalizer at the end unless it is there, removing takes every
occurrence of it and keeps the others in order, and undoes adding. -/
theorem finalizer_clients_agree (stored : s.imageBuilds.get? k = some b) (seen : Seen s k snap)
    (hdoc : ImageBuild.ofJson doc = .ok b) (manager next : String) (edit : Edit) :
    (b.isBeingDeleted = false → snap.metadata.resourceVersion = b.metadata.resourceVersion →
      ∃ b', MadeByBoth s k b snap doc manager next edit b') ∧
    (snap.metadata.resourceVersion ≠ b.metadata.resourceVersion → ∀ request,
      Http.exchange manager (edit.request snap) = .send request →
        RefusedByBoth s k snap doc next edit request) ∧
    (Http.exchange manager (edit.request snap) = .alreadyDone ↔
      ∃ f ∈ snap.metadata.finalizerList, edit = .add f) ∧
    (∀ request, Http.exchange manager (edit.request snap) = .send request ↔
      (¬ ∃ f ∈ snap.metadata.finalizerList, edit = .add f) ∧ k.name ≠ "" ∧
        edit.patch? manager snap = some request) ∧
    ∀ f fs,
      (f ∈ fs → (Edit.add f).apply fs = fs) ∧
      (f ∉ fs → (Edit.add f).apply fs = fs ++ [f] ∧
        (Edit.remove f).apply ((Edit.add f).apply fs) = fs) ∧
      ((Edit.remove f).apply fs).Sublist fs ∧ f ∉ (Edit.remove f).apply fs ∧
      ∀ g ≠ f, ((Edit.remove f).apply fs).count g = fs.count g := by
  obtain ⟨n, -, hv⟩ := seen.versioned
  obtain rfl := seen.key
  refine ⟨fun kept current => ?_, fun stale request hsent => ?_, Edit.exchange_eq_alreadyDone_iff,
    fun request => Edit.exchange_eq_send_iff, fun f fs => ⟨fun hf => ?_, fun hf => ?_,
    Edit.apply_remove_sublist f fs, Edit.not_mem_apply_remove f fs, fun g hg => ?_⟩⟩
  · obtain rfl := seen.same b stored current.symm
    exact ⟨_, madeByBoth stored kept hv hdoc manager next edit⟩
  · exact refusedByBoth stored hv hdoc stale next hsent
  · exact Edit.apply_of_done ⟨f, hf, rfl⟩
  · exact ⟨Edit.apply_add f fs hf, Edit.apply_remove_add hf⟩
  · exact Edit.count_apply_remove hg fs

/-- What a first writer adds is added on both sides, and a second one with the same snapshot is refused on
both, whatever else it would add. -/
theorem second_writer_refused_by_both : ∃ s t,
    MadeByBoth s ⟨"images", "web"⟩ plainFirst plainFirst plainFirst.toJson "operator" "8"
      (.add "backup") plainSecond ∧
    s.answer (.addFinalizer plainFirst "backup") = some (.ok (), t) ∧
    ∀ finalizer ∉ plainFirst.metadata.finalizerList, ∃ request,
      Http.exchange "operator" (.addFinalizer plainFirst finalizer) = .send request ∧
      RefusedByBoth t ⟨"images", "web"⟩ plainFirst plainSecond.toJson "9" (.add finalizer) request := by
  have hversioned : Versioned (({} : Store).addImageBuild Controller.plainImageBuild) :=
    Versioned.advance (fun _ _ h => by cases h) (Store.addImageBuild_advances _)
  have hseen : Seen _ ⟨"images", "web"⟩ plainFirst :=
    .of_stored (Store.WellKeyed.empty.added Controller.plainImageBuild) hversioned rfl
  have hanswer : (({} : Store).addImageBuild Controller.plainImageBuild).answer
      (.addFinalizer plainFirst "backup") = some (.ok (),
        ((({} : Store).addImageBuild Controller.plainImageBuild).replaced ⟨"images", "web"⟩
          plainSecond).record (.finalizerAdded ⟨"images", "web"⟩)) := rfl
  have hfirst := finalizer_clients_agree (k := ⟨"images", "web"⟩) rfl hseen
    (rfl : ImageBuild.ofJson plainFirst.toJson = .ok plainFirst) "operator" "8" (.add "backup")
  obtain ⟨b', hmade⟩ := hfirst.1 rfl rfl
  have hb' : b' = plainSecond := hmade.edited
  refine ⟨_, _, hb' ▸ hmade, hanswer, fun finalizer hnew => ?_⟩
  have hsecond := finalizer_clients_agree (k := ⟨"images", "web"⟩) rfl
    (hseen.advance (Store.answer_advances hanswer))
    (rfl : ImageBuild.ofJson plainSecond.toJson = .ok plainSecond) "operator" "9" (.add finalizer)
  have hstale : plainFirst.metadata.resourceVersion ≠ plainSecond.metadata.resourceVersion := by
    decide
  have htarget : Address.Target.parse? (Address.Target.withParameters
      (Http.imageBuildPath ⟨"images", "web"⟩) [("fieldManager", "operator")]) =
        some ⟨Http.imageBuildPath ⟨"images", "web"⟩, some "&fieldManager=operator"⟩ := by
    decide +kernel
  have hsendable : ∃ request, (Edit.add finalizer).patch? "operator" plainFirst = some request :=
    Edit.exists_patch? _ (by decide) htarget
  obtain ⟨request, hpatch⟩ := hsendable
  have hnot : ¬ ∃ f ∈ plainFirst.metadata.finalizerList, Edit.add finalizer = .add f := by
    rintro ⟨f, hf, heq⟩
    cases heq
    exact hnew hf
  have hsent := (hsecond.2.2.2.1 request).mpr ⟨hnot, by decide, hpatch⟩
  exact ⟨request, hsent, hsecond.2.1 hstale request hsent⟩

end Cluster

end ImageForge
