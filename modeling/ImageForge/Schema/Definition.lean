import ImageForge.Json.Pointer
import ImageForge.Resource.ImageBuild
import ImageForge.Schema.Spec
/-!
The definition of the image build resource, as a cluster is told about it.
-/

namespace ImageForge

open Schema

def Condition.schema : Schema :=
  (object [
    ⟨"type", (oneOf (ConditionType.all.map (·.name))).describe "Condition type", .required⟩,
    ⟨"status", (oneOf (ConditionStatus.all.map (·.name))).describe "Current value", .required⟩,
    ⟨"reason", text.describe "Machine-readable CamelCase reason for the last transition",
      .required⟩,
    ⟨"message", text.describe "Human-readable detail", .defaultTo (.str "")⟩,
    ⟨"lastTransitionTime", instant.describe "Last time `status` changed", .required⟩]).describe
    "A single named readiness observation"

def ImageBuildStatus.schema : Schema :=
  (object [
    ⟨"phase",
      (oneOf (Phase.all.map (·.name))).describe "High-level summary of the build state",
      .defaultTo Phase.pending.toJson⟩,
    ⟨"conditions",
      (list Condition.schema).describe "Latest readiness observations, one per condition type",
      .omissible⟩,
    ⟨"startTime", instant.describe "When the builder Job started", .nullable⟩,
    ⟨"completionTime", instant.describe "When the builder Job finished", .nullable⟩,
    ⟨"builderJobName", text.describe "Name of the Job executing the build", .nullable⟩,
    ⟨"outputURL", text.describe "Final location of the built artifact", .nullable⟩,
    ⟨"observedGeneration",
      int64.describe "Generation of the spec the status was computed from", .nullable⟩]).describe
    "ImageBuildStatus defines the observed state of an ImageBuild"

namespace ImageBuild

def schema : Schema :=
  (object [
    ⟨"spec", ImageBuildSpec.schema, .required⟩,
    ⟨"status", ImageBuildStatus.schema, .nullable⟩]).describe
    "Auto-generated derived type for ImageBuildSpec via `CustomResource`" ++
  [("title", .str kind)]

/-- A column of the table in which image builds are listed. -/
def column (name type path : String) : Json :=
  .ofEntries [("name", .str name), ("type", .str type), ("jsonPath", .str path)]

def columns : List Json := [
  column "BaseImage" "string" ".spec.baseImage",
  column "Phase" "string" ".status.phase",
  column "Age" "date" ".metadata.creationTimestamp"]

def names : Json :=
  .ofEntries [
    ("kind", .str kind),
    ("plural", .str plural),
    ("singular", .str "imagebuild"),
    ("shortNames", .ofTexts ["ib"]),
    ("categories", .ofTexts [])]

/-- The definition of the resource, in its only version. -/
def definition : Json :=
  .ofEntries [
    ("apiVersion", .str "apiextensions.k8s.io/v1"),
    ("kind", .str "CustomResourceDefinition"),
    ("metadata", .ofEntries [("name", .str (plural ++ "." ++ apiGroup))]),
    ("spec", .ofEntries [
      ("group", .str apiGroup),
      ("names", names),
      ("scope", .str "Namespaced"),
      ("versions", .arr [.ofEntries [
        ("name", .str version),
        ("served", .bool true),
        ("storage", .bool true),
        ("schema", .ofEntries [("openAPIV3Schema", schema.toJson)]),
        ("subresources", .ofEntries [("status", .ofEntries [])]),
        ("additionalPrinterColumns", .arr columns)]])])]

end ImageBuild

end ImageForge
