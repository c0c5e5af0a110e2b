import ImageForge.Resource.Shape.Metadata
/-!
The shapes of image builds. Their own parts must not write a field twice.
-/

namespace ImageForge.Shape

def imageBuildOutput : Shape := strictRecord [
  maybe "imageName" .text,
  maybe "pvc" (strictRecord
    [always "name" .text, maybe "subPath" .text, maybe "createIfMissing" .boolean]),
  maybe "objectStorage" (strictRecord
    [always "bucket" .text, maybe "region" .text, always "credentialsSecretName" .text]),
  maybe "registry" (strictRecord (alwaysEach ["destination", "pullSecretName"] .text)),
  maybe "formats" (.list .variant)]

def imageBuildProvisioner : Shape := strictRecord [
  maybe "ansible" (strictRecord [
    always "repo" .text, maybe "credentialsSecretName" .text, maybe "branch" .text,
    always "playbook" .text, maybe "extraVars" .anything]),
  maybe "packer" (strictRecord [
    always "repo" .text, maybe "credentialsSecretName" .text, maybe "branch" .text,
    always "templatePath" .text])]

def imageBuildPublish : Shape := strictRecord [
  maybe "aws" (strictRecord (alwaysEach
    ["region", "amiName", "instanceType", "sourceS3Bucket", "credentialsSecretName"] .text)),
  maybe "maas" (strictRecord (alwaysEach
    ["apiUrl", "imageName", "credentialsSecretName"] .text))]

def imageBuildSpec : Shape := strictRecord [
  maybe "arch" .variant,
  always "baseImage" .text,
  maybe "baseImagePullSecretName" .text,
  maybe "provisioner" imageBuildProvisioner,
  always "output" imageBuildOutput,
  maybe "publish" imageBuildPublish]

def condition : Shape := strictRecord [
  always "type" .variant,
  always "status" .variant,
  always "reason" .text,
  maybe "message" .text,
  always "lastTransitionTime" .instant]

def imageBuildStatus : Shape := strictRecord [
  maybe "phase" .variant,
  maybe "conditions" (.list condition),
  maybe "startTime" .instant,
  maybe "completionTime" .instant,
  maybe "builderJobName" .text,
  maybe "outputURL" .text,
  maybe "observedGeneration" .int64]

def imageBuild : Shape := strictRecord [
  always "metadata" objectMeta, always "spec" imageBuildSpec, always "status" imageBuildStatus]

end ImageForge.Shape
