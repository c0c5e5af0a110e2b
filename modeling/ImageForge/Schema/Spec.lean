import ImageForge.Resource.SpecDocument
import ImageForge.Schema.Basic
/-!
The schema of the desired state of an image build.
-/

namespace ImageForge

open Schema

def Architecture.schema : Schema :=
  (oneOf (Architecture.all.map (·.name))).describe "Target CPU architecture"

def ArtifactFormat.schema : Schema :=
  (oneOf (ArtifactFormat.all.map (·.name))).describe "Artifact format"

def AnsibleSpec.schema : Schema :=
  (object [
    ⟨"repo", text.describe "Git repository containing the playbooks", .required⟩,
    ⟨"credentialsSecretName",
      text.describe ("Secret used to pull the repository " ++
        "(`kubernetes.io/ssh-auth` or `kubernetes.io/basic-auth`)"), .nullable⟩,
    ⟨"branch", text.describe "Branch to check out", .defaultTo (.str defaultBranch)⟩,
    ⟨"playbook", text.describe "Playbook path inside the repository", .required⟩,
    ⟨"extraVars", anyObject.describe "Extra variables passed to the playbook (`--extra-vars`)",
      .nullable⟩]).describe "Ansible-based provisioning"

def PackerSpec.schema : Schema :=
  (object [
    ⟨"repo", text, .required⟩,
    ⟨"credentialsSecretName", text, .nullable⟩,
    ⟨"branch", text, .nullable⟩,
    ⟨"templatePath", text.describe "Packer template (HCL or JSON) inside the repository",
      .required⟩]).describe "Packer-based provisioning (schema only, no worker support yet)"

def ProvisionerSpec.schema : Schema :=
  ((object [
    ⟨"ansible", AnsibleSpec.schema, .nullable⟩,
    ⟨"packer", PackerSpec.schema, .nullable⟩]).rule
      "(has(self.ansible) ? 1 : 0) + (has(self.packer) ? 1 : 0) <= 1"
      "at most one of ansible or packer can be specified").describe
    "Provisioning method. At most one variant may be set."

def PvcOutput.schema : Schema :=
  (object [
    ⟨"name", text.describe "Claim name in the ImageBuild's namespace", .required⟩,
    ⟨"subPath", text.describe "Path inside the claim where artifacts are written", .nullable⟩,
    ⟨"createIfMissing", boolean.describe "Create the claim when it does not exist",
      .defaultTo (.bool false)⟩]).describe "PersistentVolumeClaim destination"

def ObjectStorageOutput.schema : Schema :=
  (object [
    ⟨"bucket", text, .required⟩,
    ⟨"region", text, .nullable⟩,
    ⟨"credentialsSecretName",
      text.describe "Secret holding `AWS_ACCESS_KEY_ID` and `AWS_SECRET_ACCESS_KEY`",
      .required⟩]).describe "S3-compatible bucket destination"

def RegistryOutput.schema : Schema :=
  (object [
    ⟨"destination",
      text.describe "Full image reference, e.g. \"quay.io/my-org/my-image:latest\"", .required⟩,
    ⟨"pullSecretName",
      text.describe "`kubernetes.io/dockerconfigjson` secret for registry authentication",
      .required⟩]).describe "Container registry destination"

def OutputSpec.schema : Schema :=
  ((object [
    ⟨"imageName",
      text.describe ("Base name for the output files (e.g. \"ubuntu-2404-kube-1.30\").\n" ++
        "Not used by the registry destination."), .nullable⟩,
    ⟨"pvc", PvcOutput.schema, .nullable⟩,
    ⟨"objectStorage", ObjectStorageOutput.schema, .nullable⟩,
    ⟨"registry", RegistryOutput.schema, .nullable⟩,
    ⟨"formats", (list ArtifactFormat.schema).describe "Artifact formats to produce",
      .defaultTo (.arr (defaultFormats.map (·.toJson)))⟩]).rule
      ("(has(self.pvc) ? 1 : 0) + (has(self.objectStorage) ? 1 : 0) + " ++
        "(has(self.registry) ? 1 : 0) == 1")
      "exactly one of pvc, objectStorage, or registry must be specified").describe
    "Destination for the built artifacts. Exactly one destination must be set."

def AwsPublish.schema : Schema :=
  (object [
    ⟨"region", text, .required⟩,
    ⟨"amiName", text, .required⟩,
    ⟨"instanceType",
      text.describe "Instance type used by the import task, e.g. \"t3.small\"", .required⟩,
    ⟨"sourceS3Bucket", text.describe "Bucket used to stage the qcow2 image during import",
      .required⟩,
    ⟨"credentialsSecretName", text, .required⟩]).describe
    "Publish as an AMI through the AWS VM import flow"

def MaasPublish.schema : Schema :=
  (object [
    ⟨"apiUrl", text.describe "MaaS API endpoint, e.g. \"http://maas.example.com/MAAS\"",
      .required⟩,
    ⟨"imageName", text, .required⟩,
    ⟨"credentialsSecretName", text.describe "Secret holding `MAAS_API_KEY`", .required⟩]).describe
    "Publish to a MaaS server"

def PublishSpec.schema : Schema :=
  ((object [
    ⟨"aws", AwsPublish.schema, .nullable⟩,
    ⟨"maas", MaasPublish.schema, .nullable⟩]).rule
      "(has(self.aws) ? 1 : 0) + (has(self.maas) ? 1 : 0) == 1"
      "exactly one of aws or maas must be specified").describe
    "Infrastructure provider to publish to. Exactly one target must be set."

def ImageBuildSpec.schema : Schema :=
  (object [
    ⟨"arch", Architecture.schema.describe "Target architecture for the build",
      .defaultTo Architecture.amd64.toJson⟩,
    ⟨"baseImage", text.describe "Starting container image for the build", .required⟩,
    ⟨"baseImagePullSecretName",
      text.describe
        "Name of a `kubernetes.io/dockerconfigjson` secret used to pull the base image",
      .nullable⟩,
    ⟨"provisioner",
      ProvisionerSpec.schema.describe ("Build steps applied to the base image filesystem.\n" ++
        "When omitted the base image filesystem is exported as-is."), .nullable⟩,
    ⟨"output", OutputSpec.schema.describe "Where the built artifacts are stored", .required⟩,
    ⟨"publish",
      PublishSpec.schema.describe "Infrastructure provider to publish the image to",
      .nullable⟩]).describe "ImageBuildSpec defines the desired state of an ImageBuild"

end ImageForge
