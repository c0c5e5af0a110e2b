import ImageForge.Controller.Subscription
import ImageForge.Proofs.Text.Path
import ImageForge.Proofs.Worker.Contract
import ImageForge.Proofs.Worker.Sequence

/-! The pod of a builder job. Every part of it draws its variables and directories from fixed lists, so
the parts never get into each other's way. -/
namespace ImageForge

def Container.envVars (c : Container) : List EnvVar := c.env.getD []

def Container.mounts (c : Container) : List VolumeMount := c.volumeMounts.getD []

/-- The directories of a container that are mounted. -/
def Container.directories (c : Container) : List String := c.mounts.map (·.mountPath)

def Job.podLabels (job : Job) : Option TextMap :=
  job.spec.bind fun spec => spec.template.metadata.bind (·.labels)

def Job.nodeSelector (job : Job) : Option TextMap :=
  (job.spec.bind (·.template.spec)).bind (·.nodeSelector)

namespace Worker

open Text

/-- The places in its own pod that a command names, each where its program takes it: the
credentials, the checkout and the artifacts. Roots of containers are printed by other commands. -/
def Command.places (c : Command) : List String :=
  if c.program = "buildah" then (c.args.drop 4).dropLast
  else if c.program = "git" ∨ c.program = "ansible-playbook" then c.args.getLast?.toList
  else if c.program = "tar" then (c.args.drop 1).take 1
  else if c.program = "virt-make-fs" then c.args.drop 2
  else []

variable {runner : Runner} {e : Environment} {authFile : Option String} {c : Command}
  {place : String}

namespace Command

@[simp] theorem places_creation (e : Environment) (authFile : Option String) :
    (creation e authFile).places = authFile.toList := by
  cases authFile <;> rfl

@[simp] theorem places_mounting (container : String) : (mounting container).places = [] := rfl

@[simp] theorem places_bindDevices (root : String) : (bindDevices root).places = [] := rfl

@[simp] theorem places_releaseDevices (root : String) : (releaseDevices root).places = [] := rfl

@[simp] theorem places_clone (source : SourceRepo) : (clone source).places = [sourceDir] := rfl

@[simp] theorem places_provision (playbook : Playbook) (root : String) :
    (provision playbook root).places = [playbookPath playbook] := by
  obtain ⟨_, _ | _⟩ := playbook <;> rfl

@[simp] theorem places_buildah (subcommand container : String) :
    (buildah subcommand container).places = [] := rfl

@[simp] theorem places_archive (file root : String) : (archive file root).places = [file] := rfl

@[simp] theorem places_diskImage (archive image : String) :
    (diskImage archive image).places = [archive, image] := rfl

end Command

theorem places_ideal (e : Environment) (authFile : Option String) (names : ResourceNames) :
    (idealSequence e authFile names).flatMap Command.places =
      authFile.toList ++ (e.source.map fun _ => sourceDir).toList ++
        (e.playbook.map Command.playbookPath).toList ++
        (artifacts e).archive :: (((artifacts e).diskImage.map fun image =>
          [(artifacts e).archive, image]).getD []) := by
  rw [idealSequence, preparation_eq, completion_eq, bound, provisioning, archiving]
  cases e.source <;> cases e.playbook <;> cases (artifacts e).diskImage <;> simp

theorem within_artifactPath (filename suffix : String) :
    Within outputDir (artifactPath filename suffix) := by
  rw [artifactPath, String.append_assoc]
  exact within_append _ _

theorem credentials_mem {isThere : String → Bool} (h : place ∈ credentials? isThere) :
    Within pullSecretDir place ∧ isThere place := by
  obtain ⟨hthere, rfl⟩ : isThere (pullSecretDir ++ "/" ++ pullSecretFile) ∧
      pullSecretDir ++ "/" ++ pullSecretFile = place := by
    simpa [credentials?] using h
  exact ⟨within_append _ _, hthere⟩

/-- The places that a build names are the credentials that it is given, the checkout when something
is to be checked out or run, and the output. -/
theorem places_of_issued (hc : c ∈ (perform runner [] (build e authFile)).commands)
    (hp : place ∈ c.places) :
    place ∈ authFile ∨ (e.source.isSome ∨ e.playbook.isSome) ∧ Within sourceDir place ∨
      Within outputDir place := by
  have hplace := List.mem_flatMap_of_mem (mem_ideal_of_issued hc) hp
  have harchive : Within outputDir (artifacts e).archive := within_artifactPath e.outputFilename _
  rw [places_ideal] at hplace
  simp only [List.mem_append, List.mem_cons, Option.mem_toList] at hplace
  obtain ((hauth | hsource) | hplaybook) | rfl | himage := hplace
  · exact Or.inl hauth
  · obtain ⟨source, hs, rfl⟩ := Option.map_eq_some_iff.mp hsource
    exact Or.inr (Or.inl ⟨Or.inl (hs ▸ rfl), List.prefix_rfl⟩)
  · obtain ⟨playbook, hs, rfl⟩ := Option.map_eq_some_iff.mp hplaybook
    exact Or.inr (Or.inl ⟨Or.inr (hs ▸ rfl), within_append _ _⟩)
  · exact Or.inr (Or.inr harchive)
  · -- The disk image is made from the archive, so its command names both.
    refine Or.inr (Or.inr ?_)
    unfold artifacts at himage
    split at himage
    · obtain rfl | rfl : place = _ ∨ place = _ := by simpa using himage
      · exact harchive
      · exact within_artifactPath e.outputFilename _
    · cases himage

end Worker

namespace Controller

open Text Worker

variable {b : ImageBuild} {spec : ImageBuildSpec} {settings : BuilderSettings} {job : Job}
  {part part' provisioner output : PodPart} {vs vs' : List String}
  {ds ds' : List (String × String)}

/-- A part of a pod has its variables from one list and its volumes, each with its directory, from
another. It mounts each of its volumes once. -/
structure PodPart.Draws (part : PodPart) (vs : List String) (ds : List (String × String)) :
    Prop where
  env : (part.env.map (·.name)).Sublist vs
  mounts : (part.mounts.map fun m => (m.name, m.mountPath)).Sublist ds
  volumes : part.volumes.map (·.name) = part.mounts.map (·.name)

theorem PodPart.Draws.append (h : part.Draws vs ds) (h' : part'.Draws vs' ds') :
    (part.append part').Draws (vs ++ vs') (ds ++ ds') where
  env := by simpa [PodPart.append] using h.env.append h'.env
  mounts := by simpa [PodPart.append] using h.mounts.append h'.mounts
  volumes := by simp [PodPart.append, h.volumes, h'.volumes]

theorem PodPart.Draws.volumeNames (h : part.Draws vs ds) :
    (part.volumes.map (·.name)).Sublist (ds.map (·.1)) := by
  have hnames := h.mounts.map (·.1)
  rw [List.map_map] at hnames
  exact h.volumes ▸ hnames

theorem PodPart.Draws.directories (h : part.Draws vs ds) :
    (part.mounts.map (·.mountPath)).Sublist (ds.map (·.2)) := by
  have hpaths := h.mounts.map (·.2)
  rwa [List.map_map] at hpaths

theorem basePart_draws (spec : ImageBuildSpec) :
    (basePart spec).Draws [baseImageVar, architectureVar, outputFormatsVar]
      [(storageVolume, storageDir)] := ⟨.refl _, .refl _, rfl⟩

theorem secretPart_draws (spec : ImageBuildSpec) :
    (secretPart spec).Draws [] [(pullSecretVolume, pullSecretDir)] := by
  unfold secretPart
  split
  · exact ⟨.refl _, List.nil_sublist _, rfl⟩
  · exact ⟨.refl _, .refl _, rfl⟩

theorem provisionerPart_draws (h : provisionerPart spec = .ok part) :
    part.Draws [gitRepoVar, gitBranchVar, playbookVar, extraVarsVar]
      [(sourceVolume, sourceDir)] := by
  obtain ⟨-, rfl⟩ | ⟨a, -, rfl⟩ := provisionerPart_ok h
  · exact ⟨List.nil_sublist _, List.nil_sublist _, rfl⟩
  · refine ⟨?_, .refl _, rfl⟩
    cases hx : a.extraVars <;> simp [ansiblePart, hx, envVar]

theorem outputPart_draws (h : outputPart b = .ok part) :
    part.Draws [outputFilenameVar] [(outputVolume, outputDir)] := by
  obtain ⟨_, _, _, -, -, -, rfl⟩ := outputPart_ok h
  exact ⟨.refl _, .refl _, rfl⟩

def podVariables : List String :=
  [baseImageVar, architectureVar, outputFormatsVar, gitRepoVar, gitBranchVar, playbookVar,
    extraVarsVar, outputFilenameVar]

def podDirectories : List (String × String) :=
  [(storageVolume, storageDir), (pullSecretVolume, pullSecretDir), (sourceVolume, sourceDir),
    (outputVolume, outputDir)]

theorem podPart_draws (hp : provisionerPart b.spec = .ok provisioner)
    (ho : outputPart b = .ok output) :
    (podPart b.spec provisioner output).Draws podVariables podDirectories :=
  ((basePart_draws b.spec).append (secretPart_draws b.spec)).append
    ((provisionerPart_draws hp).append (outputPart_draws ho))

theorem podPart_directories (hp : provisionerPart b.spec = .ok provisioner)
    (ho : outputPart b = .ok output) :
    (podPart b.spec provisioner output).mounts.map (·.mountPath) =
      storageDir :: (((b.spec.baseImagePullSecretName.filter (!·.isEmpty)).map
        fun _ => pullSecretDir).toList ++
          ((b.spec.ansible?.map fun _ => sourceDir).toList ++ [outputDir])) := by
  have hsecret : (secretPart b.spec).mounts.map (·.mountPath) =
      ((b.spec.baseImagePullSecretName.filter (!·.isEmpty)).map
        fun _ => pullSecretDir).toList := by
    unfold secretPart
    split <;> simp [*]
  have hprovisioner : provisioner.mounts.map (·.mountPath) =
      (b.spec.ansible?.map fun _ => sourceDir).toList := by
    obtain ⟨ha, rfl⟩ | ⟨a, ha, rfl⟩ := provisionerPart_ok hp <;> simp [ha, ansiblePart]
  obtain ⟨_, _, _, -, -, -, rfl⟩ := outputPart_ok ho
  simp [podPart, PodPart.append, basePart, hsecret, hprovisioner]

/-- A job is well-formed with the container that it runs: an API server accepts its parts together,
the watch of jobs selects it, and its pod gets a node of the right architecture. -/
structure WellFormed (job : Job) (c : Container) : Prop where
  only : job.containers = [c]
  volumes : (job.volumes.map (·.name)).Nodup
  mounts : c.mounts.map (·.name) = job.volumes.map (·.name)
  directories : c.directories.Pairwise Separate
  names : (c.envVars.map (·.name)).Nodup
  contract : ∀ v ∈ c.envVars, v.name ∈ orderVariables
  labels : job.podLabels = job.metadata.labels
  selected : ∃ labels key value, job.metadata.labels = some labels ∧
    splitAt '=' jobSelector = [key, value] ∧ (key, value) ∈ labels
  node : ∃ arch, c.value? architectureVar = some arch ∧
    job.nodeSelector = some [(archLabel, arch)]

/-- A file of a pull secret is there only when the secret is mounted. -/
def MountedSecret (c : Container) (isThere : String → Bool) : Prop :=
  ∀ path, Within pullSecretDir path → isThere path → pullSecretDir ∈ c.directories

/-- A container has the directories that the build of an image needs: those of the fixed ones that
concern it, and with them a directory for every place that a command of its worker names. -/
structure Equipped (b : ImageBuild) (c : Container) : Prop where
  storage : storageDir ∈ c.directories
  output : outputDir ∈ c.directories
  source : sourceDir ∈ c.directories ↔
    (∃ e r, Environment.read c.value? = .ok e ∧ e.source = some r) ∨ b.spec.ansible?.isSome
  secret : pullSecretDir ∈ c.directories ↔
    ∃ secret, b.spec.baseImagePullSecretName = some secret ∧ secret ≠ ""
  places : ∀ e runner isThere, Environment.read c.value? = .ok e → MountedSecret c isThere →
    ∀ command ∈ (perform runner [] (Worker.build e (credentials? isThere))).commands,
      ∀ place ∈ command.places, ∃ directory ∈ c.directories, Within directory place

variable {c : Container} {filename : String} {ansible : Option AnsibleSpec} {e : Environment}

/-- What the parts of a pod draw from the fixed lists does not clash, as nothing in those does. -/
theorem wellFormed_of_made (h : builderJob b settings = .ok job) (hc : job.containers = [c]) :
    WellFormed job c := by
  obtain ⟨name, ns, provisioner, output, -, -, -, hp, ho, rfl⟩ := builderJob_ok h
  have hdraws := podPart_draws hp ho
  -- The container is the one of the pod, so its variables and mounts are those that were drawn.
  cases hc
  exact {
    only := rfl
    volumes := hdraws.volumeNames.nodup (by decide)
    mounts := hdraws.volumes.symm
    directories := List.Pairwise.sublist hdraws.directories (by decide)
    names := hdraws.env.nodup (by decide)
    contract := by
      intro v hv
      have hmem : v.name ∈ podVariables := hdraws.env.subset (List.mem_map_of_mem hv)
      exact (by decide : podVariables ⊆ orderVariables) hmem
    labels := rfl
    selected := ⟨_, managedByLabel, managedBy, rfl, by decide, managedBy_mem_builderLabels name⟩
    node := ⟨b.spec.arch.name, rfl, rfl⟩ }

theorem directories_of_made (h : builderJob b settings = .ok job) (hc : job.containers = [c]) :
    c.directories = storageDir :: (((b.spec.baseImagePullSecretName.filter (!·.isEmpty)).map
      fun _ => pullSecretDir).toList ++
        ((b.spec.ansible?.map fun _ => sourceDir).toList ++ [outputDir])) := by
  obtain ⟨c', provisioner, output, hc', hp, ho, -, hmounts, -⟩ := builderJob_containers h
  cases hc.symm.trans hc'
  rw [Container.directories, Container.mounts, hmounts, Option.getD_some]
  exact podPart_directories hp ho

theorem Carries.ansible_of_read (h : Carries c spec filename ansible)
    (he : Environment.read c.value? = .ok e) (hsome : e.source.isSome ∨ e.playbook.isSome) :
    ansible.isSome := by
  obtain ⟨-, -, -, hplaybook, -, hsource⟩ := Environment.read_ok he
  obtain hs | hs := hsome
  · obtain ⟨r, hr⟩ := Option.isSome_iff_exists.mp hs
    obtain ⟨a, ha, -⟩ := (h.source_iff r).mp (hsource ▸ hr)
    exact ha ▸ rfl
  · obtain ⟨p, hr⟩ := Option.isSome_iff_exists.mp hs
    obtain ⟨a, ha, -⟩ := (h.playbook_iff hplaybook p).mp hr
    exact ha ▸ rfl

theorem equipped_of_made (h : builderJob b settings = .ok job) (hc : job.containers = [c]) :
    Equipped b c := by
  obtain ⟨c', filename, hc', -, hcarries⟩ := builderJob_carries h
  cases hc.symm.trans hc'
  have hdirectories := directories_of_made h hc
  have houtput : outputDir ∈ c.directories := by simp [hdirectories]
  have hsource : sourceDir ∈ c.directories ↔ b.spec.ansible?.isSome := by
    simp [hdirectories, Option.isSome_iff_exists, sourceDir, storageDir, pullSecretDir, outputDir]
  exact {
    storage := by simp [hdirectories]
    output := houtput
    source := by
      rw [hsource]
      refine ⟨Or.inr, ?_⟩
      rintro (⟨e, r, he, hr⟩ | ha)
      · exact hcarries.ansible_of_read he (Or.inl (hr ▸ rfl))
      · exact ha
    secret := by
      cases hs : b.spec.baseImagePullSecretName <;>
        simp [hdirectories, hs, sourceDir, storageDir, pullSecretDir, outputDir]
    places := by
      intro e runner isThere he hsecret command hcommand place hplace
      obtain hcredentials | ⟨hsome, hwithin⟩ | hwithin := places_of_issued hcommand hplace
      · obtain ⟨hwithin, hthere⟩ := credentials_mem hcredentials
        exact ⟨pullSecretDir, hsecret place hwithin hthere, hwithin⟩
      · exact ⟨sourceDir, hsource.mpr (hcarries.ansible_of_read he hsome), hwithin⟩
      · exact ⟨outputDir, houtput, hwithin⟩ }

/-- Of an image build, its job is made from the name, the namespace and the spec. -/
theorem builderJob_congr {b b' : ImageBuild} (hname : b.metadata.name = b'.metadata.name)
    (hns : b.metadata.ns = b'.metadata.ns) (hspec : b.spec = b'.spec) (settings : BuilderSettings) :
    builderJob b settings = builderJob b' settings := by
  simp only [builderJob, outputPart, outputFilename, hname, hns, hspec]

/-- A builder job that is made is well-formed, its container has what the worker needs, and what
else there is about the image build makes no difference to it. -/
theorem builder_job_wellFormed (h : builderJob b settings = .ok job) :
    (∃ c, WellFormed job c ∧ Equipped b c) ∧
      ∀ b' : ImageBuild, b'.metadata.name = b.metadata.name → b'.metadata.ns = b.metadata.ns →
        b'.spec = b.spec → builderJob b' settings = .ok job := by
  obtain ⟨c, _, hc, -, -⟩ := builderJob_carries h
  refine ⟨⟨c, wellFormed_of_made h hc, equipped_of_made h hc⟩, ?_⟩
  intro b' hname hns hspec
  rw [builderJob_congr hname hns hspec, h]

/-- The image build with a playbook, from a base image behind a pull secret. -/
def privateImageBuild : ImageBuild :=
  { playbookImageBuild with spec := { playbookImageBuild.spec with
    baseImagePullSecretName := some "registry" } }

theorem private_job_wellFormed :
    ∃ job, builderJob privateImageBuild {} = .ok job ∧
      (∃ c, WellFormed job c ∧ Equipped privateImageBuild c) ∧
      ∀ b' : ImageBuild, b'.metadata.name = privateImageBuild.metadata.name →
        b'.metadata.ns = privateImageBuild.metadata.ns → b'.spec = privateImageBuild.spec →
          builderJob b' {} = .ok job := by
  have hjob : builderJob privateImageBuild {} = .ok _ := rfl
  exact ⟨_, hjob, builder_job_wellFormed hjob⟩

end Controller

end ImageForge
