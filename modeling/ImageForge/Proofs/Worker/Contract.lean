import ImageForge.Proofs.Reconcile.Construction
import ImageForge.Proofs.Worker.Order

/-! Of a builder job the worker reads what the spec of the image build says, and nothing else. -/
namespace ImageForge

/-- The playbook provisioning that a spec resolves to, if it does. -/
def ImageBuildSpec.ansible? (spec : ImageBuildSpec) : Option AnsibleSpec :=
  spec.provisioner.bind fun p =>
    match p.variant with
    | .ok (some (.ansible a)) => some a
    | _ => none

def Job.containers (job : Job) : List Container :=
  ((job.spec.bind (·.template.spec)).map (·.containers)).getD []

def Job.volumes (job : Job) : List Volume :=
  ((job.spec.bind (·.template.spec)).bind (·.volumes)).getD []

def Container.value? (c : Container) (name : String) : Option String :=
  ((c.env.getD []).find? (·.name = name)).bind (·.value)

namespace Controller

open Text Worker

variable {b : ImageBuild} {spec : ImageBuildSpec} {settings : BuilderSettings} {job : Job}
  {part provisioner output : PodPart}

theorem provisionerPart_ok (h : provisionerPart spec = .ok part) :
    (spec.ansible? = none ∧ part = {}) ∨ ∃ a, spec.ansible? = some a ∧ part = ansiblePart a := by
  cases hp : spec.provisioner with
  | none =>
    simp only [provisionerPart, hp, bind, Except.bind, Except.ok.injEq] at h
    exact Or.inl ⟨by simp [ImageBuildSpec.ansible?, hp], h.symm⟩
  | some p =>
    cases hv : p.variant with
    | error e => simp [provisionerPart, hp, hv, ofSpec, bind, Except.bind] at h
    | ok chosen =>
      have hspec : spec.ansible? = match Except.ok (ε := SpecError) chosen with
          | .ok (some (.ansible a)) => some a
          | _ => none := by
        simp [ImageBuildSpec.ansible?, hp, hv]
      cases chosen with
      | none =>
        simp only [provisionerPart, hp, hv, ofSpec, bind, Except.bind, Except.ok.injEq] at h
        exact Or.inl ⟨hspec, h.symm⟩
      | some provisioner =>
        cases provisioner with
        | ansible a =>
          simp only [provisionerPart, hp, hv, ofSpec, bind, Except.bind] at h
          split at h
          · cases h
          · cases h
            exact Or.inr ⟨a, hspec, rfl⟩
        | packer _ => simp [provisionerPart, hp, hv, ofSpec, bind, Except.bind] at h

theorem outputPart_ok (h : outputPart b = .ok part) :
    ∃ pvc filename sub, ofSpec b.spec.output.destination = .ok (.pvc pvc) ∧
      outputFilename b = .ok filename ∧ subPath pvc = .ok sub ∧ part = {
        env := [envVar outputFilenameVar filename]
        volumes := [⟨outputVolume, .claim pvc.name⟩]
        mounts := [{ name := outputVolume, mountPath := outputDir, subPath := sub }] } := by
  unfold outputPart at h
  obtain ⟨destination, hd, h⟩ := ok_of_bind h
  cases destination with
  | objectStorage _ | registry _ => cases h
  | pvc pvc =>
    simp only at h
    split at h
    · cases h
    · obtain ⟨filename, hf, h⟩ := ok_of_bind h
      obtain ⟨sub, hs, h⟩ := ok_of_bind h
      cases h
      exact ⟨pvc, filename, sub, hd, hf, hs, rfl⟩

theorem podPart_env (spec : ImageBuildSpec) (provisioner output : PodPart) :
    (podPart spec provisioner output).env =
      (basePart spec).env ++ (provisioner.env ++ output.env) := by
  unfold podPart secretPart
  split <;> simp [PodPart.append]

/-- A builder job runs one container, which gets every part of the pod. -/
theorem builderJob_containers (h : builderJob b settings = .ok job) :
    ∃ c provisioner output, job.containers = [c] ∧ provisionerPart b.spec = .ok provisioner ∧
      outputPart b = .ok output ∧ c.env = some (podPart b.spec provisioner output).env ∧
      c.volumeMounts = some (podPart b.spec provisioner output).mounts ∧
      job.volumes = (podPart b.spec provisioner output).volumes := by
  obtain ⟨_, _, provisioner, output, -, -, -, hp, ho, rfl⟩ := builderJob_ok h
  exact ⟨_, provisioner, output, rfl, hp, ho, rfl, rfl, rfl⟩

/-- The variables that a container carries for a spec, of which the last four need a playbook. -/
structure Carries (c : Container) (spec : ImageBuildSpec) (filename : String)
    (ansible : Option AnsibleSpec) : Prop where
  baseImage : c.value? baseImageVar = some spec.baseImage
  arch : c.value? architectureVar = some spec.arch.name
  formats : c.value? outputFormatsVar =
    some (String.intercalate "," (spec.output.requestedFormats.map (·.name)))
  filename : c.value? outputFilenameVar = some filename
  repo : c.value? gitRepoVar = ansible.map (·.repo)
  branch : c.value? gitBranchVar = ansible.map (·.branch)
  playbook : c.value? playbookVar = ansible.map (·.playbook)
  extraVars : c.value? extraVarsVar = ansible.bind fun a => a.extraVars.map (·.render)

variable {c : Container} {filename : String} {ansible : Option AnsibleSpec}

theorem Carries.source_iff (h : Carries c spec filename ansible) (r : SourceRepo) :
    Environment.readSource (Worker.settings c.value?) = some r ↔
      ∃ a, ansible = some a ∧ isBlankText a.repo = false ∧
        r = ⟨trim a.repo, if isBlankText a.branch then defaultGitBranch else trim a.branch⟩ := by
  cases ansible with
  | none => simp [Environment.readSource, settings_eq, h.repo]
  | some a =>
    rw [Environment.readSource_eq_some h.repo h.branch]
    simp

theorem Carries.playbook_iff (h : Carries c spec filename ansible) {found : Option Playbook}
    (hread : Environment.readPlaybook (Worker.settings c.value?) = .ok found) (p : Playbook) :
    found = some p ↔ ∃ a, ansible = some a ∧ isBlankText a.repo = false ∧
      isBlankText a.playbook = false ∧ p = ⟨trim a.playbook, a.extraVars.map (·.render)⟩ := by
  cases ansible with
  | none =>
    simp only [Environment.readPlaybook, settings_eq, h.playbook, Option.map_none,
      Option.bind_none, Except.ok.injEq] at hread
    simp [← hread]
  | some a =>
    rw [Environment.playbook_of_read h.repo h.playbook h.extraVars hread]
    simp

theorem builderJob_carries (h : builderJob b settings = .ok job) :
    ∃ c filename, job.containers = [c] ∧ outputFilename b = .ok filename ∧
      Carries c b.spec filename b.spec.ansible? := by
  obtain ⟨c, provisioner, output, hc, hp, ho, henv, -, -⟩ := builderJob_containers h
  obtain ⟨_, filename, _, -, hf, -, rfl⟩ := outputPart_ok ho
  refine ⟨c, filename, hc, hf, ?_⟩
  rw [podPart_env] at henv
  obtain ⟨ha, rfl⟩ | ⟨a, ha, rfl⟩ := provisionerPart_ok hp
  · rw [ha]
    constructor <;> simp [Container.value?, henv, basePart, envVar, baseImageVar,
      architectureVar, outputFormatsVar, outputFilenameVar, gitRepoVar, gitBranchVar, playbookVar,
      extraVarsVar]
  · rw [ha]
    cases hx : a.extraVars <;> constructor <;> simp [Container.value?, henv, basePart,
      ansiblePart, hx, envVar, baseImageVar, architectureVar, outputFormatsVar, outputFilenameVar,
      gitRepoVar, gitBranchVar, playbookVar, extraVarsVar]

/-- The order of a worker is the one that an image build gives in its spec. -/
structure Ordered (b : ImageBuild) (e : Environment) : Prop where
  baseImage : e.baseImage = trim b.spec.baseImage
  arch : e.arch = b.spec.arch
  formats : e.formats =
    if b.spec.output.requestedFormats = [] then [.tgz] else b.spec.output.requestedFormats
  outputFilename : ∃ filename, outputFilename b = .ok filename ∧
    e.outputFilename = if isBlankText filename then defaultOutputFilename else trim filename
  source : ∀ r, e.source = some r ↔ ∃ a, b.spec.ansible? = some a ∧ isBlankText a.repo = false ∧
    r = ⟨trim a.repo, if isBlankText a.branch then defaultGitBranch else trim a.branch⟩
  playbook : ∀ p, e.playbook = some p ↔ ∃ a, b.spec.ansible? = some a ∧
    isBlankText a.repo = false ∧ isBlankText a.playbook = false ∧
    p = ⟨trim a.playbook, a.extraVars.map (·.render)⟩

/-- A worker that starts in the container of a builder job, and reads an order at all, reads the one
that the image build gives. -/
theorem worker_reads_spec (h : builderJob b settings = .ok job) :
    ∃ c, job.containers = [c] ∧ ∀ e, Environment.read c.value? = .ok e → Ordered b e := by
  obtain ⟨c, filename, hc, hf, hv⟩ := builderJob_carries h
  refine ⟨c, hc, ?_⟩
  intro e he
  obtain ⟨hbase, harch, hformats, hplaybook, hfile, hsource⟩ := Environment.read_ok he
  exact {
    baseImage := Environment.baseImage_of_read hv.baseImage hbase
    arch := Environment.arch_of_read hv.arch harch
    formats := Environment.formats_of_read hv.formats (ArtifactFormat.nodup_distinct _) hformats
    outputFilename := by
      refine ⟨filename, hf, ?_⟩
      rw [hfile, settings_eq, hv.filename, Option.bind_some, unlessBlank_getD]
    source := hsource ▸ hv.source_iff
    playbook := hv.playbook_iff hplaybook }

/-- A plain image build that is provisioned by a playbook of the default branch. -/
def playbookImageBuild : ImageBuild :=
  { plainImageBuild with spec := { plainImageBuild.spec with
    provisioner := some ⟨some ⟨"https://git.local/site", none, " ", " site.yml ", some (.obj [])⟩,
      none⟩ } }

theorem playbook_order_read :
    ∃ job c e, builderJob playbookImageBuild {} = .ok job ∧ job.containers = [c] ∧
      Environment.read c.value? = .ok e ∧
      e.source = some ⟨"https://git.local/site", "main"⟩ ∧
      e.playbook = some ⟨"site.yml", some "\x7b\x7d"⟩ ∧ Ordered playbookImageBuild e := by
  have hjob : builderJob playbookImageBuild {} = .ok _ := rfl
  obtain ⟨c, hc, hread⟩ := worker_reads_spec hjob
  have he : Environment.read c.value? = .ok ⟨"ubuntu", .arm64, "web", [.tgz],
      some ⟨"https://git.local/site", "main"⟩, some ⟨"site.yml", some "\x7b\x7d"⟩⟩ := by
    cases hc
    rfl
  exact ⟨_, c, _, hjob, hc, he, rfl, rfl, hread _ he⟩

end Controller

end ImageForge
