import ImageForge.Resource.Shape.Metadata
/-!
The metadata that every stored object carries. Null and absence mean the same in these documents, and
a required text that is absent reads as the empty one.
-/

namespace ImageForge

/-- A reference to the object that another one belongs to. -/
structure OwnerReference where
  apiVersion : String := ""
  kind : String := ""
  name : String := ""
  uid : String := ""
  controller : Option Bool := none
  blockOwnerDeletion : Option Bool := none
  deriving DecidableEq, Repr

/-- Texts under distinct keys, sorted by key. -/
abbrev TextMap := List (String × String)

namespace TextMap

/-- Puts an entry in its place, replacing the one of the same key. -/
def insert (key value : String) : TextMap → TextMap
  | [] => [(key, value)]
  | (k, v) :: rest =>
    if key = k then (key, value) :: rest
    else if key < k then (key, value) :: (k, v) :: rest
    else (k, v) :: insert key value rest

def ofEntries (entries : List (String × String)) : TextMap :=
  entries.foldl (fun m e => insert e.1 e.2 m) []

def toJson (m : TextMap) : Json := .ofEntries (m.map fun e => (e.1, .str e.2))

def ofJson : Decoder TextMap := fun v => do
  let fs ← Decode.fields "a map" v
  let entries ← fs.mapM fun (k, v) => (Decode.text v).map (k, ·)
  return ofEntries entries

end TextMap

/-- The metadata of an object; `ns` is the namespace it lives in, and `others` are the fields that are
only kept. -/
structure Metadata where
  name : Option String := none
  generateName : Option String := none
  ns : Option String := none
  uid : Option String := none
  generation : Option Int := none
  resourceVersion : Option String := none
  finalizers : Option (List String) := none
  deletionTimestamp : Option Instant := none
  labels : Option TextMap := none
  annotations : Option TextMap := none
  ownerReferences : Option (List OwnerReference) := none
  others : List (String × Json) := []
  deriving DecidableEq, Repr, Inhabited

namespace OwnerReference

def toJson (r : OwnerReference) : Json :=
  .ofOptional [
    ("apiVersion", some (.str r.apiVersion)),
    ("kind", some (.str r.kind)),
    ("name", some (.str r.name)),
    ("uid", some (.str r.uid)),
    ("controller", r.controller.map .bool),
    ("blockOwnerDeletion", r.blockOwnerDeletion.map .bool)]

def ofJson : Decoder OwnerReference := fun v => do
  let fs ← Decode.fields "OwnerReference" v
  let apiVersion ← Decode.optional fs "apiVersion" Decode.text
  let blockOwnerDeletion ← Decode.optional fs "blockOwnerDeletion" Decode.boolean
  let controller ← Decode.optional fs "controller" Decode.boolean
  let kind ← Decode.optional fs "kind" Decode.text
  let name ← Decode.optional fs "name" Decode.text
  let uid ← Decode.optional fs "uid" Decode.text
  return ⟨apiVersion.getD "", kind.getD "", name.getD "", uid.getD "", controller,
    blockOwnerDeletion⟩

end OwnerReference

namespace Metadata

/-- The finalizers; an absent list and an empty one are the same here. -/
def finalizerList (m : Metadata) : List String := m.finalizers.getD []

/-- The owners; an absent list and an empty one are the same here. -/
def owners (m : Metadata) : List OwnerReference := m.ownerReferences.getD []

/-- The name of an object, or what its generated name will begin with. -/
def displayName (m : Metadata) : String :=
  match m.name with
  | some n => n
  | none => m.generateName.getD ""

/-- An object is going away once it has a deletion time. -/
def isBeingDeleted (m : Metadata) : Bool := m.deletionTimestamp.isSome

/-- The names of the fields that have a meaning here. -/
def fieldNames : List String :=
  ["name", "generateName", "namespace", "uid", "generation", "resourceVersion", "finalizers",
    "deletionTimestamp", "labels", "annotations", "ownerReferences"]

def toJson (m : Metadata) : Json :=
  .ofOptional ([
    ("name", m.name.map .str),
    ("generateName", m.generateName.map .str),
    ("namespace", m.ns.map .str),
    ("uid", m.uid.map .str),
    ("generation", m.generation.map .ofInt),
    ("resourceVersion", m.resourceVersion.map .str),
    ("finalizers", m.finalizers.map .ofTexts),
    ("deletionTimestamp", m.deletionTimestamp.map fun t => .str t.renderSeconds),
    ("labels", m.labels.map TextMap.toJson),
    ("annotations", m.annotations.map TextMap.toJson),
    ("ownerReferences", m.ownerReferences.map fun rs => .arr (rs.map (·.toJson)))] ++
    m.others.map fun f => (f.1, some f.2))

def ofJson : Decoder Metadata := fun v => do
  let fs ← Decode.fields "ObjectMeta" (← Shape.objectMeta.decoder "ObjectMeta" v)
  let annotations ← Decode.optional fs "annotations" TextMap.ofJson
  let deletionTimestamp ← Decode.optional fs "deletionTimestamp" Decode.instant
  let finalizers ← Decode.optional fs "finalizers" (Decode.list Decode.text)
  let generateName ← Decode.optional fs "generateName" Decode.text
  let generation ← Decode.optional fs "generation" Decode.int64
  let labels ← Decode.optional fs "labels" TextMap.ofJson
  let name ← Decode.optional fs "name" Decode.text
  let ns ← Decode.optional fs "namespace" Decode.text
  let ownerReferences ← Decode.optional fs "ownerReferences" (Decode.list OwnerReference.ofJson)
  let resourceVersion ← Decode.optional fs "resourceVersion" Decode.text
  let uid ← Decode.optional fs "uid" Decode.text
  return ⟨name, generateName, ns, uid, generation, resourceVersion, finalizers,
    deletionTimestamp, labels, annotations, ownerReferences, Json.without fieldNames fs⟩

end Metadata

end ImageForge
