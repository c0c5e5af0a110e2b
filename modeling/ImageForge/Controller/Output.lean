import ImageForge.Resource.ImageBuild
import ImageForge.Text.Blank
import ImageForge.Text.Pieces
/-!
Where the artifacts of an image build go, and why no job can be made for one.
-/

namespace ImageForge.Controller

/-- Why an image build cannot be turned into a builder job. -/
inductive JobError
  | missingName
  | missingNamespace
  | missingUid
  | emptyBaseImage
  | invalidSpec (reason : SpecError)
  | unsupportedProvisioner (kind : String)
  | unsupportedOutput (kind : String)
  | unsupportedProvisionerOption (option : String)
  | unsupportedOutputOption (option : String)
  | invalidSubPath (path : String)
  | extraVars (reason : String)
  deriving DecidableEq, Repr

namespace JobError

def message : JobError → String
  | .missingName => "ImageBuild has no name"
  | .missingNamespace => "ImageBuild has no namespace"
  | .missingUid => "ImageBuild has no uid, cannot set owner reference"
  | .emptyBaseImage => "spec.baseImage must not be empty"
  | .invalidSpec reason => "invalid spec: " ++ reason.message
  | .unsupportedProvisioner kind =>
    "provisioner " ++ Text.quote kind ++ " is not supported by the builder"
  | .unsupportedOutput kind =>
    "output destination " ++ Text.quote kind ++ " is not supported by the builder"
  | .unsupportedProvisionerOption option =>
    "spec.provisioner." ++ option ++ " is not supported by the builder"
  | .unsupportedOutputOption option =>
    "spec.output." ++ option ++ " is not supported by the builder"
  | .invalidSubPath path =>
    "spec.output.pvc.subPath " ++ Text.quote path ++ " must stay inside the claim"
  | .extraVars reason =>
    "spec.provisioner.ansible.extraVars could not be encoded: " ++ reason

/-- Whether the spec is valid but asks for what the worker does not do. -/
def isUnsupported : JobError → Bool
  | .unsupportedProvisioner _ | .unsupportedProvisionerOption _ | .unsupportedOutput _
  | .unsupportedOutputOption _ => true
  | _ => false

/-- The condition of the section that is to blame, if it is one section. -/
def affectedCondition : JobError → Option ConditionType
  | .emptyBaseImage => some .baseImageReady
  | .unsupportedProvisioner _ | .unsupportedProvisionerOption _ | .extraVars _ =>
    some .provisionerReady
  | .unsupportedOutput _ | .unsupportedOutputOption _ | .invalidSubPath _ => some .outputReady
  | .missingName | .missingNamespace | .missingUid | .invalidSpec _ => none

end JobError

/-- Reads a part of the spec for a job. -/
def ofSpec {α : Type} : Except SpecError α → Except JobError α
  | .ok a => .ok a
  | .error e => .error (.invalidSpec e)

/-- A path without blanks and slashes at its ends. -/
def trimPath (raw : String) : List Char :=
  Text.strip (· = '/') (Text.strip Text.isBlank raw.toList)

/-- The directory inside a claim, if one is named; it must not lead out of the claim. -/
def subPath (pvc : PvcOutput) : Except JobError (Option String) :=
  match pvc.subPath with
  | none => .ok none
  | some raw =>
    let path := trimPath raw
    if ['.', '.'] ∈ Text.pieces '/' path then .error (.invalidSubPath raw)
    else .ok (if path.isEmpty then none else some (String.ofList path))

/-- The base name of the artifacts: the one that is asked for, else the name of the image build. -/
def outputFilename (b : ImageBuild) : Except JobError String :=
  let asked := (b.spec.output.imageName.map Text.trim).filter (!·.isEmpty)
  match asked, b.metadata.name with
  | some name, _ => .ok name
  | none, some name => .ok name
  | none, none => .error .missingName

/-- Where the archive lies after the build; only a claim has such a place. -/
def outputUrl (b : ImageBuild) : Except JobError (Option String) := do
  let filename ← outputFilename b
  match ← ofSpec b.spec.output.destination with
  | .pvc pvc =>
    let dir := match ← subPath pvc with
      | some sub => pvc.name ++ "/" ++ sub
      | none => pvc.name
    return some ("pvc://" ++ dir ++ "/" ++ filename ++ ".tar.gz")
  | .objectStorage _ | .registry _ => return none

end ImageForge.Controller
