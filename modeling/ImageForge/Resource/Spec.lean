import ImageForge.Json.Basic
import ImageForge.Resource.Choice
/-!
The desired state of an image build: a base image, steps that change its filesystem, where the
artifacts go and where the image is published.
-/

namespace ImageForge

/-- The processor family an image is built for. -/
inductive Architecture
  | amd64
  | arm64
  deriving DecidableEq, Repr, Inhabited

namespace Architecture

def all : List Architecture := [.amd64, .arm64]

def name : Architecture → String
  | .amd64 => "amd64"
  | .arm64 => "arm64"

def parse (s : String) : Except SpecError Architecture := Choice.named "arch" all name s

end Architecture

/-- A form in which a build delivers the filesystem. -/
inductive ArtifactFormat
  | tgz
  | qcow2
  deriving DecidableEq, Repr

namespace ArtifactFormat

def all : List ArtifactFormat := [.tgz, .qcow2]

def name : ArtifactFormat → String
  | .tgz => "tgz"
  | .qcow2 => "qcow2"

def parse (s : String) : Except SpecError ArtifactFormat :=
  Choice.named "output.formats" all name s

/-- The formats without repetitions, each where it came first. -/
def distinct (formats : List ArtifactFormat) : List ArtifactFormat :=
  formats.foldl (fun seen f => if f ∈ seen then seen else seen ++ [f]) []

end ArtifactFormat

/-- Provisioning by a playbook out of a repository. -/
structure AnsibleSpec where
  repo : String
  credentialsSecretName : Option String
  branch : String
  playbook : String
  extraVars : Option Json
  deriving Repr

/-- Provisioning by a template out of a repository. -/
structure PackerSpec where
  repo : String
  credentialsSecretName : Option String
  branch : Option String
  templatePath : String
  deriving DecidableEq, Repr

structure ProvisionerSpec where
  ansible : Option AnsibleSpec
  packer : Option PackerSpec
  deriving Repr

inductive Provisioner
  | ansible (spec : AnsibleSpec)
  | packer (spec : PackerSpec)
  deriving Repr

def Provisioner.kind : Provisioner → String
  | .ansible _ => "ansible"
  | .packer _ => "packer"

/-- The provisioner of a section; an empty section asks for none. -/
def ProvisionerSpec.variant (p : ProvisionerSpec) : Except SpecError (Option Provisioner) :=
  Choice.atMostOne "provisioner"
    [("ansible", p.ansible.map .ansible), ("packer", p.packer.map .packer)]

/-- A volume claim that receives the artifacts. -/
structure PvcOutput where
  name : String
  subPath : Option String
  createIfMissing : Bool
  deriving DecidableEq, Repr

/-- A bucket that receives the artifacts. -/
structure ObjectStorageOutput where
  bucket : String
  region : Option String
  credentialsSecretName : String
  deriving DecidableEq, Repr

/-- A container registry that receives the image. -/
structure RegistryOutput where
  destination : String
  pullSecretName : String
  deriving DecidableEq, Repr

structure OutputSpec where
  imageName : Option String
  pvc : Option PvcOutput
  objectStorage : Option ObjectStorageOutput
  registry : Option RegistryOutput
  formats : List ArtifactFormat
  deriving DecidableEq, Repr

inductive Destination
  | pvc (output : PvcOutput)
  | objectStorage (output : ObjectStorageOutput)
  | registry (output : RegistryOutput)
  deriving DecidableEq, Repr

def Destination.kind : Destination → String
  | .pvc _ => "pvc"
  | .objectStorage _ => "objectStorage"
  | .registry _ => "registry"

namespace OutputSpec

def destination (o : OutputSpec) : Except SpecError Destination :=
  Choice.exactlyOne "output"
    [("pvc", o.pvc.map .pvc), ("objectStorage", o.objectStorage.map .objectStorage),
      ("registry", o.registry.map .registry)]

/-- The formats asked for, in the order in which they are first named. -/
def requestedFormats (o : OutputSpec) : List ArtifactFormat := ArtifactFormat.distinct o.formats

end OutputSpec

structure AwsPublish where
  region : String
  amiName : String
  instanceType : String
  sourceS3Bucket : String
  credentialsSecretName : String
  deriving DecidableEq, Repr

structure MaasPublish where
  apiUrl : String
  imageName : String
  credentialsSecretName : String
  deriving DecidableEq, Repr

structure PublishSpec where
  aws : Option AwsPublish
  maas : Option MaasPublish
  deriving DecidableEq, Repr

inductive PublishTarget
  | aws (spec : AwsPublish)
  | maas (spec : MaasPublish)
  deriving DecidableEq, Repr

def PublishTarget.kind : PublishTarget → String
  | .aws _ => "aws"
  | .maas _ => "maas"

def PublishSpec.target (p : PublishSpec) : Except SpecError PublishTarget :=
  Choice.exactlyOne "publish" [("aws", p.aws.map .aws), ("maas", p.maas.map .maas)]

/-- The desired state of an image build. -/
structure ImageBuildSpec where
  arch : Architecture
  baseImage : String
  baseImagePullSecretName : Option String
  provisioner : Option ProvisionerSpec
  output : OutputSpec
  publish : Option PublishSpec
  deriving Repr

end ImageForge
