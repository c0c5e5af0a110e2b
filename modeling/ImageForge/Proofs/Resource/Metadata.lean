import ImageForge.Proofs.Json.NormalForm
import ImageForge.Resource.Metadata

/-! Metadata as they are read from a document: in the normal form of their shape, field by field. -/
namespace ImageForge

open Json

namespace Decode

variable {α : Type} {fields : List (String × Json)} {name key : String} {value : Json}

theorem optional_congr {fields' : List (String × Json)} (h : lookup name fields' = lookup name fields)
    (read : Decoder α) : optional fields' name read = optional fields name read := by
  rw [optional, optional, h]

theorem optional_insert_of_ne (h : name ≠ key) (read : Decoder α) :
    optional (insert key value fields) name read = optional fields name read :=
  optional_congr (lookup_insert_of_ne h value fields) read

end Decode

namespace Metadata

variable {fields : List (String × Json)} {doc : Json} {m : Metadata} {finalizers : List String}
  {version : String}

/-- The metadata that fields in their normal form hold. -/
structure Reads (fields : List (String × Json)) (m : Metadata) : Prop where
  annotations : Decode.optional fields "annotations" TextMap.ofJson = .ok m.annotations
  deletionTimestamp :
    Decode.optional fields "deletionTimestamp" Decode.instant = .ok m.deletionTimestamp
  finalizers : Decode.optional fields "finalizers" (Decode.list Decode.text) = .ok m.finalizers
  generateName : Decode.optional fields "generateName" Decode.text = .ok m.generateName
  generation : Decode.optional fields "generation" Decode.int64 = .ok m.generation
  labels : Decode.optional fields "labels" TextMap.ofJson = .ok m.labels
  name : Decode.optional fields "name" Decode.text = .ok m.name
  ns : Decode.optional fields "namespace" Decode.text = .ok m.ns
  ownerReferences :
    Decode.optional fields "ownerReferences" (Decode.list OwnerReference.ofJson) = .ok m.ownerReferences
  resourceVersion : Decode.optional fields "resourceVersion" Decode.text = .ok m.resourceVersion
  uid : Decode.optional fields "uid" Decode.text = .ok m.uid
  others : without fieldNames fields = m.others

abbrev members : List (String × Bool × Shape) := Shape.objectMeta.members

theorem nodup_members : (members.map (·.1)).Nodup := by decide

theorem finalizers_mem : ("finalizers", false, Shape.texts) ∈ members := by
  simp [members, Shape.members, Shape.objectMeta, Shape.record, Shape.maybe]

theorem resourceVersion_mem : ("resourceVersion", false, Shape.text) ∈ members := by
  simp [members, Shape.members, Shape.objectMeta, Shape.record, Shape.maybeEach, Shape.maybe]

theorem normal?_iff {normal : Json} : Shape.objectMeta.normal? (.obj fields) = some normal ↔
    ∃ fields', normal = .obj fields' ∧ Shape.NormalFields members fields fields' :=
  Shape.normal?_object_iff nodup_members

theorem reads_of_ofJson (h : ofJson doc = .ok m) : ∃ fields normal, doc = .obj fields ∧
    Shape.NormalFields members fields normal ∧ Reads normal m := by
  obtain ⟨normalDoc, hnormalDoc, h⟩ := ok_of_bind h
  obtain ⟨normal, hnormal, h⟩ := ok_of_bind h
  obtain ⟨annotations, hannotations, h⟩ := ok_of_bind h
  obtain ⟨deletionTimestamp, hdeletion, h⟩ := ok_of_bind h
  obtain ⟨finalizers, hfinalizers, h⟩ := ok_of_bind h
  obtain ⟨generateName, hgenerateName, h⟩ := ok_of_bind h
  obtain ⟨generation, hgeneration, h⟩ := ok_of_bind h
  obtain ⟨labels, hlabels, h⟩ := ok_of_bind h
  obtain ⟨name, hname, h⟩ := ok_of_bind h
  obtain ⟨ns, hns, h⟩ := ok_of_bind h
  obtain ⟨ownerReferences, howners, h⟩ := ok_of_bind h
  obtain ⟨resourceVersion, hversion, h⟩ := ok_of_bind h
  obtain ⟨uid, huid, h⟩ := ok_of_bind h
  cases h
  have hshape : Shape.objectMeta.normal? doc = some normalDoc := by
    unfold Shape.decoder at hnormalDoc
    split at hnormalDoc
    next v hv =>
      cases hnormalDoc
      exact hv
    next => cases hnormalDoc
  cases doc with
  | obj fields =>
    obtain ⟨normal', rfl, hfields⟩ := normal?_iff.mp hshape
    cases hnormal
    exact ⟨fields, normal, rfl, hfields, ⟨hannotations, hdeletion, hfinalizers, hgenerateName,
      hgeneration, hlabels, hname, hns, howners, hversion, huid, rfl⟩⟩
  | null | bool _ | num _ | str _ | arr _ => cases hshape

theorem Reads.ofJson {normal : List (String × Json)} (h : Reads normal m)
    (hnormal : Shape.NormalFields members fields normal) : ofJson (.obj fields) = .ok m := by
  have hshape : Shape.objectMeta.decoder "ObjectMeta" (.obj fields) = .ok (.obj normal) := by
    rw [Shape.decoder, normal?_iff.mpr ⟨normal, rfl, hnormal⟩]
  simp only [Metadata.ofJson, hshape, Decode.fields, h.annotations, h.deletionTimestamp, h.finalizers,
    h.generateName, h.generation, h.labels, h.name, h.ns, h.ownerReferences, h.resourceVersion, h.uid,
    h.others, bind, Except.bind, pure, Except.pure]

def rewritten (m : Metadata) (finalizers : List String) (version : String) : Metadata :=
  { m with finalizers := some finalizers, resourceVersion := some version }

theorem Reads.rewritten (h : Reads fields m) (finalizers : List String) (version : String) :
    Reads (insert "resourceVersion" (.str version) (insert "finalizers" (.ofTexts finalizers) fields))
      (m.rewritten finalizers version) := by
  have hothers : ∀ {α : Type} (name : String) (read : Decoder α), name ≠ "finalizers" →
      name ≠ "resourceVersion" → Decode.optional (insert "resourceVersion" (.str version)
        (insert "finalizers" (.ofTexts finalizers) fields)) name read =
          Decode.optional fields name read := by
    intro α name read hf hv
    rw [Decode.optional_insert_of_ne hv, Decode.optional_insert_of_ne hf]
  have hlist : Decode.list Decode.text (.ofTexts finalizers) = .ok finalizers :=
    mapM_map_ok fun _ _ => rfl
  exact {
    annotations := (hothers _ _ (by decide) (by decide)).trans h.annotations
    deletionTimestamp := (hothers _ _ (by decide) (by decide)).trans h.deletionTimestamp
    finalizers := by
      rw [Decode.optional_insert_of_ne (by decide), Decode.optional, lookup_insert_self]
      exact congrArg (Except.map some) hlist
    generateName := (hothers _ _ (by decide) (by decide)).trans h.generateName
    generation := (hothers _ _ (by decide) (by decide)).trans h.generation
    labels := (hothers _ _ (by decide) (by decide)).trans h.labels
    name := (hothers _ _ (by decide) (by decide)).trans h.name
    ns := (hothers _ _ (by decide) (by decide)).trans h.ns
    ownerReferences := (hothers _ _ (by decide) (by decide)).trans h.ownerReferences
    resourceVersion := by
      rw [Decode.optional, lookup_insert_self]
      rfl
    uid := (hothers _ _ (by decide) (by decide)).trans h.uid
    others := by
      rw [without_insert (by decide), without_insert (by decide)]
      exact h.others }

theorem resourceVersion_iff {normal : List (String × Json)} (h : Reads normal m)
    (hnormal : Shape.NormalFields members fields normal) :
    m.resourceVersion = some version ↔ lookup "resourceVersion" fields = some (.str version) := by
  rw [← hnormal.lookup_text resourceVersion_mem]
  constructor
  · intro hm
    obtain ⟨v, hfound, hread⟩ := Decode.read_of_optional (h.resourceVersion.trans (congrArg _ hm))
    cases v with
    | str s =>
      cases hread
      exact hfound
    | null | bool _ | num _ | arr _ | obj _ => cases hread
  · intro hfound
    have hread := h.resourceVersion
    rw [Decode.optional, hfound] at hread
    exact (Except.ok.inj hread).symm

end Metadata

end ImageForge
