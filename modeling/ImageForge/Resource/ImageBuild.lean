import ImageForge.Resource.Metadata
import ImageForge.Resource.SpecDocument
import ImageForge.Resource.Status
/-!
The image build as a stored object: metadata, desired state and observed state.
-/

namespace ImageForge

structure ImageBuild where
  metadata : Metadata
  spec : ImageBuildSpec
  status : Option ImageBuildStatus
  deriving Repr

namespace ImageBuild

def apiGroup : String := "bib.cluster.x-k8s.io"
def version : String := "v1alpha1"
def apiVersion : String := apiGroup ++ "/" ++ version
def kind : String := "ImageBuild"
def plural : String := "imagebuilds"

/-- The finalizer that keeps an image build until its builder job is gone. -/
def operatorFinalizer : String := "bib.cluster.x-k8s.io/imagebuild"

def hasFinalizer (b : ImageBuild) : Bool := operatorFinalizer ∈ b.metadata.finalizerList

def isBeingDeleted (b : ImageBuild) : Bool := b.metadata.isBeingDeleted

def toJson (b : ImageBuild) : Json :=
  .ofOptional [
    ("apiVersion", some (.str apiVersion)),
    ("kind", some (.str kind)),
    ("metadata", some b.metadata.toJson),
    ("spec", some b.spec.toJson),
    ("status", b.status.map (·.toJson))]

/-- Reads a stored object; which type of object the document says it is does not matter. -/
def ofJson : Decoder ImageBuild := fun v => do
  let fs ← Decode.fields "ImageBuild" v
  let metadata ← Decode.field? fs "metadata" Metadata.ofJson
  let spec ← Decode.field? fs "spec" ImageBuildSpec.ofJson
  let status ← Decode.optional fs "status" ImageBuildStatus.ofObject
  let metadata ← Decode.required "metadata" metadata
  let spec ← Decode.required "spec" spec
  return ⟨metadata, spec, status⟩

end ImageBuild

end ImageForge
