import ImageForge.Proofs.Resource.StatusPatch

/-! Finalizers and a version that are merged into the document of an image build, and read again. -/
namespace ImageForge

open Json

namespace Json

variable {doc : Json} {entries : List (String × Json)} {name : String}

def metadataFields (doc : Json) : List (String × Json) :=
  fieldsOf ((lookup "metadata" (fieldsOf doc)).getD .null)

def metadataPatch (entries : List (String × Json)) : Json :=
  .ofEntries [("metadata", .ofEntries entries)]

theorem mergePatch_metadataPatch (doc : Json) (entries : List (String × Json)) :
    doc.mergePatch (metadataPatch entries) = .obj (insert "metadata"
      (.obj (mergeFields doc.metadataFields (fieldsOf (.ofEntries entries)))) (fieldsOf doc)) :=
  mergePatch_field doc "metadata" (fieldsOf (.ofEntries entries))

theorem lookup_patched_of_ne (h : name ≠ "metadata") :
    lookup name (fieldsOf (doc.mergePatch (metadataPatch entries))) = lookup name (fieldsOf doc) := by
  rw [mergePatch_metadataPatch]
  exact lookup_insert_of_ne h _ _

theorem metadataFields_patched : (doc.mergePatch (metadataPatch entries)).metadataFields =
    mergeFields doc.metadataFields (fieldsOf (.ofEntries entries)) := by
  rw [mergePatch_metadataPatch, metadataFields, fieldsOf, lookup_insert_self]
  rfl

theorem lookup_metadata_patched (hn : (entries.map (·.1)).Nodup) (hplain : ∀ e ∈ entries, e.2.Plain)
    (name : String) : lookup name (doc.mergePatch (metadataPatch entries)).metadataFields =
      (lookup name entries).or (lookup name doc.metadataFields) := by
  have hkeys := (ordered_ofEntries entries).nodup
  rw [metadataFields_patched]
  cases hfound : lookup name entries with
  | none => exact lookup_mergeFields_of_absent hkeys ((lookup_ofEntries hn name).trans hfound) _
  | some v =>
    have hv : v.Plain := by
      obtain ⟨e, he, hev⟩ := Option.map_eq_some_iff.mp hfound
      exact hev ▸ hplain e (List.mem_of_find?_eq_some he)
    exact lookup_mergeFields_of_plain hkeys hv ((lookup_ofEntries hn name).trans hfound) _

/-- A document and the same with other finalizers and another version; whatever else there is in either
is in both. -/
structure Rewritten (doc doc' : Json) (finalizers : List String) (version : String) : Prop where
  metadata : lookup "metadata" (fieldsOf doc') = some (.obj doc'.metadataFields)
  others : ∀ name ≠ "metadata", lookup name (fieldsOf doc') = lookup name (fieldsOf doc)
  told : ∀ name, lookup name doc'.metadataFields =
    if name = "resourceVersion" then some (.str version)
    else if name = "finalizers" then some (.ofTexts finalizers)
    else lookup name doc.metadataFields

/-- Finalizers are written along with the version that they were read with, and then the document gets a
new version. -/
theorem rewritten_patched (doc : Json) (finalizers : List String) (version next : String) :
    Rewritten doc ((doc.mergePatch (metadataPatch
        [("finalizers", .ofTexts finalizers), ("resourceVersion", .str version)])).mergePatch
      (metadataPatch [("resourceVersion", .str next)])) finalizers next where
  metadata := by
    rw [metadataFields_patched, mergePatch_metadataPatch, fieldsOf, lookup_insert_self]
  others name hname := by rw [lookup_patched_of_ne hname, lookup_patched_of_ne hname]
  told name := by
    rw [lookup_metadata_patched (by simp) (by simp [Plain]),
      lookup_metadata_patched (by simp) (by simp [Plain, ofTexts])]
    by_cases hv : name = "resourceVersion"
    · simp [hv, lookup_cons]
    · by_cases hf : name = "finalizers"
      · simp [hf, lookup]
      · simp [hf, hv, Ne.symm hf, Ne.symm hv, lookup]

end Json

namespace ImageBuild

variable {doc doc' : Json} {b : ImageBuild} {finalizers : List String} {version : String}

theorem metadata_of_ofJson (h : ofJson doc = .ok b) : ∃ normal,
    Shape.NormalFields Metadata.members doc.metadataFields normal ∧ Metadata.Reads normal b.metadata := by
  obtain ⟨v, hfound, hread⟩ := Decode.read_of_field? (reads_of_ofJson h).metadata
  obtain ⟨fields, normal, rfl, hnormal, hm⟩ := Metadata.reads_of_ofJson hread
  refine ⟨normal, ?_, hm⟩
  rwa [metadataFields, hfound]

theorem resourceVersion_iff (h : ofJson doc = .ok b) : b.metadata.resourceVersion = some version ↔
    lookup "resourceVersion" doc.metadataFields = some (.str version) := by
  obtain ⟨normal, hnormal, hm⟩ := metadata_of_ofJson h
  exact Metadata.resourceVersion_iff hm hnormal

/-- The image build with other finalizers, under a new version. An empty list of them stays a list. -/
def rewritten (b : ImageBuild) (finalizers : List String) (version : String) : ImageBuild :=
  { b with metadata := b.metadata.rewritten finalizers version }

theorem ofJson_of_rewritten (h : ofJson doc = .ok b)
    (hdoc : Json.Rewritten doc doc' finalizers version) :
    ofJson doc' = .ok (b.rewritten finalizers version) := by
  have hb := reads_of_ofJson h
  obtain ⟨normal, hnormal, hm⟩ := metadata_of_ofJson h
  have hfinalizers := hnormal.insert Metadata.nodup_members Metadata.finalizers_mem Json.noConfusion
    (Shape.normal?_texts finalizers)
  have hput := hfinalizers.insert Metadata.nodup_members Metadata.resourceVersion_mem Json.noConfusion
    (Shape.normal?_text version)
  have hnormal' : Shape.NormalFields Metadata.members doc'.metadataFields _ :=
    hput.congr fun name => by rw [hdoc.told, lookup_insert, lookup_insert]
  have hmetadata : Metadata.ofJson (.obj doc'.metadataFields) =
      .ok (b.metadata.rewritten finalizers version) :=
    (hm.rewritten finalizers version).ofJson hnormal'
  have hreads : Reads (fieldsOf doc') (b.rewritten finalizers version) := {
    metadata := by
      rw [Decode.field?, hdoc.metadata]
      exact congrArg (Except.map some) hmetadata
    spec := (Decode.field?_congr (hdoc.others "spec" (by decide)) _).trans hb.spec
    status := (Decode.optional_congr (hdoc.others "status" (by decide)) _).trans hb.status }
  cases doc' with
  | obj fields => exact hreads.ofJson
  | null | bool _ | num _ | str _ | arr _ => cases hdoc.metadata

end ImageBuild

end ImageForge
