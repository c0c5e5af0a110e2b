import ImageForge.Json.Decode
import ImageForge.Resource.Spec
/-!
The document of a desired state, written and read. Keys that no type knows are ignored, and a
reader goes through the known keys in their sorted order; the `parts` of a record are in the order of
its list form.
-/

namespace ImageForge

namespace Architecture

def toJson (a : Architecture) : Json := .str a.name
def ofJson : Decoder Architecture := Decode.oneOf all name

end Architecture

namespace ArtifactFormat

def toJson (f : ArtifactFormat) : Json := .str f.name
def ofJson : Decoder ArtifactFormat := Decode.oneOf all name

end ArtifactFormat

namespace AnsibleSpec

/-- The branch that is checked out when none is named. -/
def defaultBranch : String := "main"

def toJson (a : AnsibleSpec) : Json :=
  .ofOptional [
    ("repo", some (.str a.repo)),
    ("credentialsSecretName", a.credentialsSecretName.map .str),
    ("branch", some (.str a.branch)),
    ("playbook", some (.str a.playbook)),
    ("extraVars", a.extraVars)]

def parts : List Decode.Part := [
  .needed "repo" Decode.text, .optional "credentialsSecretName" Decode.text,
  .defaulted "branch" Decode.text, .needed "playbook" Decode.text,
  .optional "extraVars" (fun v => .ok v)]

def ofJson : Decoder AnsibleSpec := fun v => do
  let fs ← Decode.record "AnsibleSpec" parts v
  let branch ← Decode.field? fs "branch" Decode.text
  let credentials ← Decode.optional fs "credentialsSecretName" Decode.text
  let extraVars ← Decode.optional fs "extraVars" (fun v => .ok v)
  let playbook ← Decode.field? fs "playbook" Decode.text
  let repo ← Decode.field? fs "repo" Decode.text
  let repo ← Decode.required "repo" repo
  let playbook ← Decode.required "playbook" playbook
  return ⟨repo, credentials, branch.getD defaultBranch, playbook, extraVars⟩

end AnsibleSpec

namespace PackerSpec

def toJson (p : PackerSpec) : Json :=
  .ofOptional [
    ("repo", some (.str p.repo)),
    ("credentialsSecretName", p.credentialsSecretName.map .str),
    ("branch", p.branch.map .str),
    ("templatePath", some (.str p.templatePath))]

def parts : List Decode.Part := [
  .needed "repo" Decode.text, .optional "credentialsSecretName" Decode.text,
  .optional "branch" Decode.text, .needed "templatePath" Decode.text]

def ofJson : Decoder PackerSpec := fun v => do
  let fs ← Decode.record "PackerSpec" parts v
  let branch ← Decode.optional fs "branch" Decode.text
  let credentials ← Decode.optional fs "credentialsSecretName" Decode.text
  let repo ← Decode.field? fs "repo" Decode.text
  let templatePath ← Decode.field? fs "templatePath" Decode.text
  let repo ← Decode.required "repo" repo
  let templatePath ← Decode.required "templatePath" templatePath
  return ⟨repo, credentials, branch, templatePath⟩

end PackerSpec

namespace ProvisionerSpec

def toJson (p : ProvisionerSpec) : Json :=
  .ofOptional [("ansible", p.ansible.map (·.toJson)), ("packer", p.packer.map (·.toJson))]

def parts : List Decode.Part := [
  .optional "ansible" AnsibleSpec.ofJson, .optional "packer" PackerSpec.ofJson]

def ofJson : Decoder ProvisionerSpec := fun v => do
  let fs ← Decode.record "ProvisionerSpec" parts v
  let ansible ← Decode.optional fs "ansible" AnsibleSpec.ofJson
  let packer ← Decode.optional fs "packer" PackerSpec.ofJson
  return ⟨ansible, packer⟩

end ProvisionerSpec

namespace PvcOutput

def toJson (p : PvcOutput) : Json :=
  .ofOptional [
    ("name", some (.str p.name)),
    ("subPath", p.subPath.map .str),
    ("createIfMissing", some (.bool p.createIfMissing))]

def parts : List Decode.Part := [
  .needed "name" Decode.text, .optional "subPath" Decode.text,
  .defaulted "createIfMissing" Decode.boolean]

def ofJson : Decoder PvcOutput := fun v => do
  let fs ← Decode.record "PvcOutput" parts v
  let createIfMissing ← Decode.field? fs "createIfMissing" Decode.boolean
  let name ← Decode.field? fs "name" Decode.text
  let subPath ← Decode.optional fs "subPath" Decode.text
  let name ← Decode.required "name" name
  return ⟨name, subPath, createIfMissing.getD false⟩

end PvcOutput

namespace ObjectStorageOutput

def toJson (o : ObjectStorageOutput) : Json :=
  .ofOptional [
    ("bucket", some (.str o.bucket)),
    ("region", o.region.map .str),
    ("credentialsSecretName", some (.str o.credentialsSecretName))]

def parts : List Decode.Part := [
  .needed "bucket" Decode.text, .optional "region" Decode.text,
  .needed "credentialsSecretName" Decode.text]

def ofJson : Decoder ObjectStorageOutput := fun v => do
  let fs ← Decode.record "ObjectStorageOutput" parts v
  let bucket ← Decode.field? fs "bucket" Decode.text
  let credentials ← Decode.field? fs "credentialsSecretName" Decode.text
  let region ← Decode.optional fs "region" Decode.text
  let bucket ← Decode.required "bucket" bucket
  let credentials ← Decode.required "credentialsSecretName" credentials
  return ⟨bucket, region, credentials⟩

end ObjectStorageOutput

namespace RegistryOutput

def toJson (r : RegistryOutput) : Json :=
  .ofEntries [("destination", .str r.destination), ("pullSecretName", .str r.pullSecretName)]

def parts : List Decode.Part := [
  .needed "destination" Decode.text, .needed "pullSecretName" Decode.text]

def ofJson : Decoder RegistryOutput := fun v => do
  let fs ← Decode.record "RegistryOutput" parts v
  let destination ← Decode.field? fs "destination" Decode.text
  let pullSecretName ← Decode.field? fs "pullSecretName" Decode.text
  let destination ← Decode.required "destination" destination
  let pullSecretName ← Decode.required "pullSecretName" pullSecretName
  return ⟨destination, pullSecretName⟩

end RegistryOutput

namespace OutputSpec

/-- The formats that are produced when none are named. -/
def defaultFormats : List ArtifactFormat := [.tgz, .qcow2]

def toJson (o : OutputSpec) : Json :=
  .ofOptional [
    ("imageName", o.imageName.map .str),
    ("pvc", o.pvc.map (·.toJson)),
    ("objectStorage", o.objectStorage.map (·.toJson)),
    ("registry", o.registry.map (·.toJson)),
    ("formats", some (.arr (o.formats.map (·.toJson))))]

def parts : List Decode.Part := [
  .optional "imageName" Decode.text, .optional "pvc" PvcOutput.ofJson,
  .optional "objectStorage" ObjectStorageOutput.ofJson,
  .optional "registry" RegistryOutput.ofJson,
  .defaulted "formats" (Decode.list ArtifactFormat.ofJson)]

def ofJson : Decoder OutputSpec := fun v => do
  let fs ← Decode.record "OutputSpec" parts v
  let formats ← Decode.field? fs "formats" (Decode.list ArtifactFormat.ofJson)
  let imageName ← Decode.optional fs "imageName" Decode.text
  let objectStorage ← Decode.optional fs "objectStorage" ObjectStorageOutput.ofJson
  let pvc ← Decode.optional fs "pvc" PvcOutput.ofJson
  let registry ← Decode.optional fs "registry" RegistryOutput.ofJson
  return ⟨imageName, pvc, objectStorage, registry, formats.getD defaultFormats⟩

end OutputSpec

namespace AwsPublish

def toJson (a : AwsPublish) : Json :=
  .ofEntries [
    ("region", .str a.region),
    ("amiName", .str a.amiName),
    ("instanceType", .str a.instanceType),
    ("sourceS3Bucket", .str a.sourceS3Bucket),
    ("credentialsSecretName", .str a.credentialsSecretName)]

def parts : List Decode.Part := [
  .needed "region" Decode.text, .needed "amiName" Decode.text,
  .needed "instanceType" Decode.text, .needed "sourceS3Bucket" Decode.text,
  .needed "credentialsSecretName" Decode.text]

def ofJson : Decoder AwsPublish := fun v => do
  let fs ← Decode.record "AwsPublishSpec" parts v
  let amiName ← Decode.field? fs "amiName" Decode.text
  let credentials ← Decode.field? fs "credentialsSecretName" Decode.text
  let instanceType ← Decode.field? fs "instanceType" Decode.text
  let region ← Decode.field? fs "region" Decode.text
  let sourceS3Bucket ← Decode.field? fs "sourceS3Bucket" Decode.text
  let region ← Decode.required "region" region
  let amiName ← Decode.required "amiName" amiName
  let instanceType ← Decode.required "instanceType" instanceType
  let sourceS3Bucket ← Decode.required "sourceS3Bucket" sourceS3Bucket
  let credentials ← Decode.required "credentialsSecretName" credentials
  return ⟨region, amiName, instanceType, sourceS3Bucket, credentials⟩

end AwsPublish

namespace MaasPublish

def toJson (m : MaasPublish) : Json :=
  .ofEntries [
    ("apiUrl", .str m.apiUrl),
    ("imageName", .str m.imageName),
    ("credentialsSecretName", .str m.credentialsSecretName)]

def parts : List Decode.Part := [
  .needed "apiUrl" Decode.text, .needed "imageName" Decode.text,
  .needed "credentialsSecretName" Decode.text]

def ofJson : Decoder MaasPublish := fun v => do
  let fs ← Decode.record "MaasPublishSpec" parts v
  let apiUrl ← Decode.field? fs "apiUrl" Decode.text
  let credentials ← Decode.field? fs "credentialsSecretName" Decode.text
  let imageName ← Decode.field? fs "imageName" Decode.text
  let apiUrl ← Decode.required "apiUrl" apiUrl
  let imageName ← Decode.required "imageName" imageName
  let credentials ← Decode.required "credentialsSecretName" credentials
  return ⟨apiUrl, imageName, credentials⟩

end MaasPublish

namespace PublishSpec

def toJson (p : PublishSpec) : Json :=
  .ofOptional [("aws", p.aws.map (·.toJson)), ("maas", p.maas.map (·.toJson))]

def parts : List Decode.Part := [
  .optional "aws" AwsPublish.ofJson, .optional "maas" MaasPublish.ofJson]

def ofJson : Decoder PublishSpec := fun v => do
  let fs ← Decode.record "PublishSpec" parts v
  let aws ← Decode.optional fs "aws" AwsPublish.ofJson
  let maas ← Decode.optional fs "maas" MaasPublish.ofJson
  return ⟨aws, maas⟩

end PublishSpec

namespace ImageBuildSpec

def toJson (s : ImageBuildSpec) : Json :=
  .ofOptional [
    ("arch", some s.arch.toJson),
    ("baseImage", some (.str s.baseImage)),
    ("baseImagePullSecretName", s.baseImagePullSecretName.map .str),
    ("provisioner", s.provisioner.map (·.toJson)),
    ("output", some s.output.toJson),
    ("publish", s.publish.map (·.toJson))]

def parts : List Decode.Part := [
  .defaulted "arch" Architecture.ofJson, .needed "baseImage" Decode.text,
  .optional "baseImagePullSecretName" Decode.text,
  .optional "provisioner" ProvisionerSpec.ofJson, .needed "output" OutputSpec.ofJson,
  .optional "publish" PublishSpec.ofJson]

def ofJson : Decoder ImageBuildSpec := fun v => do
  let fs ← Decode.record "ImageBuildSpec" parts v
  let arch ← Decode.field? fs "arch" Architecture.ofJson
  let baseImage ← Decode.field? fs "baseImage" Decode.text
  let pullSecret ← Decode.optional fs "baseImagePullSecretName" Decode.text
  let output ← Decode.field? fs "output" OutputSpec.ofJson
  let provisioner ← Decode.optional fs "provisioner" ProvisionerSpec.ofJson
  let publish ← Decode.optional fs "publish" PublishSpec.ofJson
  let baseImage ← Decode.required "baseImage" baseImage
  let output ← Decode.required "output" output
  return ⟨arch.getD .amd64, baseImage, pullSecret, provisioner, output, publish⟩

end ImageBuildSpec

end ImageForge
