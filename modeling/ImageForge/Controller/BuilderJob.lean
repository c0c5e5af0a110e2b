import ImageForge.Controller.Naming
import ImageForge.Controller.Output
import ImageForge.Json.Writer
import ImageForge.Resource.Job
import ImageForge.Worker.Contract
/-!
The builder job of an image build: one container that gets its order from variables and its
directories from volumes. The job depends on nothing but the image build and the settings.
-/

namespace ImageForge.Controller

/-- The image of the worker when none is configured. -/
def defaultBuilderImage : String := "ghcr.io/zarcen/bib-operator/builder:0.1.1"
/-- The pull policy of that image when none is configured. -/
def defaultPullPolicy : String := "IfNotPresent"

/-- The settings of the container that the worker runs in. -/
structure BuilderSettings where
  image : String := defaultBuilderImage
  imagePullPolicy : String := defaultPullPolicy
  deriving DecidableEq, Repr

def containerName : String := "builder"
/-- Who manages builder jobs, as their label says. -/
def managedBy : String := "imagebuild-controller"
def managedByLabel : String := "app.kubernetes.io/managed-by"
/-- The label with the name of the image build. -/
def imageBuildLabel : String := "bib.cluster.x-k8s.io/imagebuild"
def archLabel : String := "kubernetes.io/arch"

def storageVolume : String := "containers-storage"
def pullSecretVolume : String := "baseimage-pull-secret"
def sourceVolume : String := "source-repo"
def outputVolume : String := "output-pvc"

/-- A part of the pod: variables, volumes and where the volumes are mounted. -/
structure PodPart where
  env : List EnvVar := []
  volumes : List Volume := []
  mounts : List VolumeMount := []
  deriving DecidableEq, Repr

def PodPart.append (a b : PodPart) : PodPart :=
  ⟨a.env ++ b.env, a.volumes ++ b.volumes, a.mounts ++ b.mounts⟩

def envVar (name value : String) : EnvVar := { name, value := some value }

/-- What every builder pod has. -/
def basePart (spec : ImageBuildSpec) : PodPart where
  env := [
    envVar Worker.baseImageVar spec.baseImage,
    envVar Worker.architectureVar spec.arch.name,
    envVar Worker.outputFormatsVar
      (String.intercalate "," (spec.output.requestedFormats.map (·.name)))]
  volumes := [⟨storageVolume, .emptyDir⟩]
  mounts := [{ name := storageVolume, mountPath := Worker.storageDir }]

/-- The pull secret, when one is named. -/
def secretPart (spec : ImageBuildSpec) : PodPart :=
  match spec.baseImagePullSecretName.filter (!·.isEmpty) with
  | none => {}
  | some secret => {
    volumes := [⟨pullSecretVolume, .secret secret⟩]
    mounts := [{
      name := pullSecretVolume, mountPath := Worker.pullSecretDir, readOnly := some true }] }

/-- What the playbook needs. -/
def ansiblePart (a : AnsibleSpec) : PodPart where
  env := [
    envVar Worker.gitRepoVar a.repo,
    envVar Worker.gitBranchVar a.branch,
    envVar Worker.playbookVar a.playbook] ++
    (a.extraVars.map fun v => envVar Worker.extraVarsVar v.render).toList
  volumes := [⟨sourceVolume, .emptyDir⟩]
  mounts := [{ name := sourceVolume, mountPath := Worker.sourceDir }]

/-- The provisioner, which must be one the worker can run, without options it cannot honour. -/
def provisionerPart (spec : ImageBuildSpec) : Except JobError PodPart := do
  let chosen ← match spec.provisioner with
    | some p => ofSpec p.variant
    | none => .ok none
  match chosen with
  | none => .ok {}
  | some (.ansible a) =>
    if (a.credentialsSecretName.filter (!·.isEmpty)).isSome then
      .error (.unsupportedProvisionerOption "ansible.credentialsSecretName")
    else .ok (ansiblePart a)
  | some (.packer p) => .error (.unsupportedProvisioner (Provisioner.packer p).kind)

/-- The destination, which must be a claim that exists already. -/
def outputPart (b : ImageBuild) : Except JobError PodPart := do
  match ← ofSpec b.spec.output.destination with
  | .pvc pvc =>
    if pvc.createIfMissing then .error (.unsupportedOutputOption "pvc.createIfMissing")
    else
      let filename ← outputFilename b
      let sub ← subPath pvc
      .ok {
        env := [envVar Worker.outputFilenameVar filename]
        volumes := [⟨outputVolume, .claim pvc.name⟩]
        mounts := [{ name := outputVolume, mountPath := Worker.outputDir, subPath := sub }] }
  | .objectStorage o => .error (.unsupportedOutput (Destination.objectStorage o).kind)
  | .registry r => .error (.unsupportedOutput (Destination.registry r).kind)

/-- The labels of a builder job and its pod. -/
def builderLabels (name : String) : TextMap :=
  .ofEntries [(managedByLabel, managedBy), (imageBuildLabel, fitLabel name)]

/-- The pod that runs the worker, once, on a node of the right architecture. -/
def builderPod (spec : ImageBuildSpec) (settings : BuilderSettings) (part : PodPart) : PodSpec where
  nodeSelector := some [(archLabel, spec.arch.name)]
  restartPolicy := some "Never"
  securityContext := some { runAsUser := some 0 }
  containers := [{
    name := containerName
    image := some settings.image
    imagePullPolicy := some settings.imagePullPolicy
    securityContext := some { privileged := some true }
    env := some part.env
    volumeMounts := some part.mounts }]
  volumes := some part.volumes

/-- The builder job of an image build, without an owner. A failed build is final, so the job never
tries again. -/
def builderJob (b : ImageBuild) (settings : BuilderSettings) : Except JobError Job := do
  let some name := b.metadata.name | .error .missingName
  let some ns := b.metadata.ns | .error .missingNamespace
  if Text.isBlankText b.spec.baseImage then .error .emptyBaseImage
  let provisioner ← provisionerPart b.spec
  let output ← outputPart b
  let part := ((basePart b.spec).append (secretPart b.spec)).append (provisioner.append output)
  let labels := builderLabels name
  return {
    metadata := { name := some (builderJobName name), ns := some ns, labels := some labels }
    spec := some {
      backoffLimit := some 0
      template := {
        metadata := some { labels := some labels }
        spec := some (builderPod b.spec settings part) } } }

/-- The reference that makes an image build the owner of its job. -/
def ownerReference (b : ImageBuild) : Except JobError OwnerReference :=
  match b.metadata.uid, b.metadata.name with
  | none, _ => .error .missingUid
  | some _, none => .error .missingName
  | some uid, some name =>
    .ok ⟨ImageBuild.apiVersion, ImageBuild.kind, name, uid, some true, some true⟩

/-- The job with an image build as its only owner. -/
def withOwner (j : Job) (b : ImageBuild) : Except JobError Job :=
  (ownerReference b).map fun r =>
    { j with metadata := { j.metadata with ownerReferences := some [r] } }

/-- The builder job of an image build, owned by it. -/
def ownedBuilderJob (b : ImageBuild) (settings : BuilderSettings) : Except JobError Job := do
  withOwner (← builderJob b settings) b

end ImageForge.Controller
