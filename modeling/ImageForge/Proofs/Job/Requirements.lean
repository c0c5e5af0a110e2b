import ImageForge.Proofs.Reconcile.Construction
import ImageForge.Proofs.Text.Trimming

/-! What a builder job requires of an image build. A job is made when every requirement is met, and else
the first one that is not met is told. -/
namespace ImageForge

/-- The provisioners that a section names, in the order of their declaration. -/
def ProvisionerSpec.keys (p : ProvisionerSpec) : List String :=
  (p.ansible.map fun _ => "ansible").toList ++ (p.packer.map fun _ => "packer").toList

def ImageBuildSpec.provisionerKeys (spec : ImageBuildSpec) : List String :=
  (spec.provisioner.map (·.keys)).getD []

def OutputSpec.keys (o : OutputSpec) : List String :=
  (o.pvc.map fun _ => "pvc").toList ++ (o.objectStorage.map fun _ => "objectStorage").toList ++
    (o.registry.map fun _ => "registry").toList

namespace Choice

variable {α : Type} {field : String} {candidates : List (String × Option α)}

theorem atMostOne_of_conflict (h : 1 < ((given candidates).map (·.1)).length) :
    atMostOne field candidates =
      .error (.conflictingVariants field ((given candidates).map (·.1))) := by
  unfold atMostOne
  match hg : given candidates with
  | [] | [_] => simp [hg] at h
  | _ :: _ :: _ => rfl

theorem exactlyOne_of_conflict (h : 1 < ((given candidates).map (·.1)).length) :
    exactlyOne field candidates =
      .error (.conflictingVariants field ((given candidates).map (·.1))) := by
  rw [exactlyOne, atMostOne_of_conflict h]

theorem exactlyOne_of_none (h : (given candidates).map (·.1) = []) :
    exactlyOne field candidates = .error (.missingVariant field (candidates.map (·.1))) := by
  rw [exactlyOne, atMostOne, List.map_eq_nil_iff.mp h]

end Choice

theorem ProvisionerSpec.keys_eq (p : ProvisionerSpec) :
    p.keys = (Choice.given [("ansible", p.ansible.map Provisioner.ansible),
      ("packer", p.packer.map Provisioner.packer)]).map (·.1) := by
  obtain ⟨_ | _, _ | _⟩ := p <;> rfl

theorem OutputSpec.keys_eq (o : OutputSpec) :
    o.keys = (Choice.given [("pvc", o.pvc.map Destination.pvc),
      ("objectStorage", o.objectStorage.map Destination.objectStorage),
      ("registry", o.registry.map Destination.registry)]).map (·.1) := by
  obtain ⟨_, _ | _, _ | _, _ | _, _⟩ := o <;> rfl

namespace Controller

/-- What is left of a path when the blanks at its ends are cut off, and then the slashes. -/
def trimmedPath (path : String) : List Char :=
  Text.strip (· = '/') (Text.strip Text.isBlank path.toList)

theorem trimmedPath_eq_iff {path : String} {core : List Char} :
    trimmedPath path = core ↔ ∃ unblanked, Text.Trimmed Text.isBlank path.toList unblanked ∧
      Text.Trimmed (· = '/') unblanked core := by
  simp [trimmedPath, Text.trimmed_iff]

/-- What a builder job requires of an image build, in the order in which it is required. -/
inductive Requirement
  | name
  | ns
  | baseImage
  | oneProvisioner
  | supportedProvisioner
  | oneDestination
  | supportedDestination
  | confinedPath
  deriving DecidableEq, Repr

namespace Requirement

def rank : Requirement → Nat
  | .name => 0
  | .ns => 1
  | .baseImage => 2
  | .oneProvisioner => 3
  | .supportedProvisioner => 4
  | .oneDestination => 5
  | .supportedDestination => 6
  | .confinedPath => 7

def Met (b : ImageBuild) : Requirement → Prop
  | .name => b.metadata.name.isSome
  | .ns => b.metadata.ns.isSome
  | .baseImage => ∃ c ∈ b.spec.baseImage.toList, ¬ Text.isBlank c
  | .oneProvisioner => b.spec.provisionerKeys.length ≤ 1
  | .supportedProvisioner => ∀ p ∈ b.spec.provisioner, p.packer = none ∧
      ∀ a ∈ p.ansible, ∀ secret ∈ a.credentialsSecretName, secret = ""
  | .oneDestination => b.spec.output.keys.length = 1
  | .supportedDestination => b.spec.output.objectStorage = none ∧ b.spec.output.registry = none ∧
      ∀ pvc ∈ b.spec.output.pvc, pvc.createIfMissing = false
  | .confinedPath => ∀ pvc ∈ b.spec.output.pvc, ∀ path ∈ pvc.subPath,
      ['.', '.'] ∉ (trimmedPath path).splitOn '/'

instance (b : ImageBuild) : (r : Requirement) → Decidable (r.Met b)
  | .name | .ns => inferInstanceAs (Decidable (_ = true))
  | .baseImage => inferInstanceAs (Decidable (∃ c ∈ b.spec.baseImage.toList, ¬ Text.isBlank c))
  | .oneProvisioner => inferInstanceAs (Decidable (_ ≤ 1))
  | .supportedProvisioner => inferInstanceAs (Decidable (∀ p ∈ b.spec.provisioner,
      p.packer = none ∧ ∀ a ∈ p.ansible, ∀ secret ∈ a.credentialsSecretName, secret = ""))
  | .oneDestination => inferInstanceAs (Decidable (_ = 1))
  | .supportedDestination => inferInstanceAs (Decidable (_ = none ∧ _ = none ∧
      ∀ pvc ∈ b.spec.output.pvc, pvc.createIfMissing = false))
  | .confinedPath => inferInstanceAs (Decidable (∀ pvc ∈ b.spec.output.pvc, ∀ path ∈ pvc.subPath,
      ['.', '.'] ∉ (trimmedPath path).splitOn '/'))

def error (b : ImageBuild) : Requirement → JobError
  | .name => .missingName
  | .ns => .missingNamespace
  | .baseImage => .emptyBaseImage
  | .oneProvisioner => .invalidSpec (.conflictingVariants "provisioner" b.spec.provisionerKeys)
  | .supportedProvisioner =>
    if "packer" ∈ b.spec.provisionerKeys then .unsupportedProvisioner "packer"
    else .unsupportedProvisionerOption "ansible.credentialsSecretName"
  | .oneDestination =>
    if b.spec.output.keys = [] then
      .invalidSpec (.missingVariant "output" ["pvc", "objectStorage", "registry"])
    else .invalidSpec (.conflictingVariants "output" b.spec.output.keys)
  | .supportedDestination =>
    if "objectStorage" ∈ b.spec.output.keys then .unsupportedOutput "objectStorage"
    else if "registry" ∈ b.spec.output.keys then .unsupportedOutput "registry"
    else .unsupportedOutputOption "pvc.createIfMissing"
  | .confinedPath => .invalidSubPath ((b.spec.output.pvc.bind (·.subPath)).getD "")

/-- The requirement is not met, and all that come before it are. -/
def FirstUnmet (b : ImageBuild) (r : Requirement) : Prop :=
  ¬ r.Met b ∧ ∀ before : Requirement, before.rank < r.rank → before.Met b

end Requirement

variable {b : ImageBuild} {settings : BuilderSettings} {r : Requirement} {e : JobError}

theorem provisionerPart_of_conflict (h : ¬ Requirement.Met b .oneProvisioner) :
    provisionerPart b.spec = .error (Requirement.error b .oneProvisioner) := by
  simp only [Requirement.Met, ImageBuildSpec.provisionerKeys, not_le] at h
  cases hp : b.spec.provisioner with
  | none => simp [hp] at h
  | some p =>
    have hkeys : 1 < p.keys.length := by simpa [hp] using h
    have hvariant : p.variant = .error (.conflictingVariants "provisioner" p.keys) := by
      rw [ProvisionerSpec.keys_eq] at hkeys ⊢
      exact Choice.atMostOne_of_conflict hkeys
    simp [provisionerPart, hp, hvariant, ofSpec, bind, Except.bind, Requirement.error,
      ImageBuildSpec.provisionerKeys]

theorem credentials_isSome_iff {secret : Option String} :
    (secret.filter (!·.isEmpty)).isSome = true ↔ ¬ ∀ name ∈ secret, name = "" := by
  cases secret <;> simp

/-- Of the provisioners that do not conflict, exactly the supported ones have a part in the pod. -/
theorem provisionerPart_of_one (h : Requirement.Met b .oneProvisioner) :
    (Requirement.Met b .supportedProvisioner ∧ ∃ part, provisionerPart b.spec = .ok part) ∨
      ¬ Requirement.Met b .supportedProvisioner ∧
        provisionerPart b.spec = .error (Requirement.error b .supportedProvisioner) := by
  obtain ⟨_, ⟨_, _, _, provisioner, _, _⟩, _⟩ := b
  obtain _ | ⟨_ | ansible, _ | packer⟩ := provisioner
  · exact Or.inl ⟨by simp [Requirement.Met], _, rfl⟩
  · exact Or.inl ⟨by simp [Requirement.Met], _, rfl⟩
  · exact Or.inr ⟨by simp [Requirement.Met], rfl⟩
  · by_cases hc : ∀ secret ∈ ansible.credentialsSecretName, secret = ""
    · refine Or.inl ⟨by simpa [Requirement.Met] using hc, ansiblePart ansible, ?_⟩
      exact if_neg (credentials_isSome_iff.not_left.mpr hc)
    · refine Or.inr ⟨by simpa [Requirement.Met] using hc, ?_⟩
      exact if_pos (credentials_isSome_iff.mpr hc)
  · simp [Requirement.Met, ImageBuildSpec.provisionerKeys, ProvisionerSpec.keys] at h

theorem outputPart_of_not_one (h : ¬ Requirement.Met b .oneDestination) :
    outputPart b = .error (Requirement.error b .oneDestination) := by
  have hd : ofSpec b.spec.output.destination = .error (Requirement.error b .oneDestination) := by
    by_cases hnone : b.spec.output.keys = []
    · rw [Requirement.error, if_pos hnone]
      rw [OutputSpec.keys_eq] at hnone
      rw [OutputSpec.destination, Choice.exactlyOne_of_none hnone]
      rfl
    · have hmany : 1 < b.spec.output.keys.length := by
        have hpos := List.length_pos_iff.mpr hnone
        simp only [Requirement.Met] at h
        omega
      rw [Requirement.error, if_neg hnone]
      rw [OutputSpec.keys_eq] at hmany ⊢
      rw [OutputSpec.destination, Choice.exactlyOne_of_conflict hmany]
      rfl
  rw [outputPart, hd]
  rfl

theorem subPath_of_some {pvc : PvcOutput} {path : String} (h : pvc.subPath = some path) :
    subPath pvc = if ['.', '.'] ∈ (trimmedPath path).splitOn '/' then
      .error (.invalidSubPath path)
    else .ok (if (trimmedPath path).isEmpty then none
      else some (String.ofList (trimmedPath path))) := by
  simp only [subPath, h, Text.pieces_eq_splitOn]
  rfl

theorem outputFilename_of_name {name : String} (h : b.metadata.name = some name) :
    ∃ filename, outputFilename b = .ok filename := by
  unfold outputFilename
  cases (b.spec.output.imageName.map Text.trim).filter (!·.isEmpty) with
  | some asked => exact ⟨asked, rfl⟩
  | none => exact ⟨name, by rw [h]⟩

/-- A single destination is one of three. -/
inductive OnlyDestination (o : OutputSpec) : Prop
  | pvc (output : PvcOutput) (there : o.pvc = some output) (storage : o.objectStorage = none)
      (registry : o.registry = none) (chosen : o.destination = .ok (.pvc output))
  | objectStorage (output : ObjectStorageOutput) (there : o.objectStorage = some output)
      (chosen : o.destination = .ok (.objectStorage output))
  | registry (output : RegistryOutput) (storage : o.objectStorage = none)
      (there : o.registry = some output) (chosen : o.destination = .ok (.registry output))

theorem onlyDestination {o : OutputSpec} (h : o.keys.length = 1) : OnlyDestination o := by
  obtain ⟨_, pvc, storage, registry, _⟩ := o
  obtain _ | pvc := pvc <;> obtain _ | storage := storage <;> obtain _ | registry := registry
  case none.none.some => exact .registry registry rfl rfl rfl
  case none.some.none => exact .objectStorage storage rfl rfl
  case some.none.none => exact .pvc pvc rfl rfl rfl rfl
  all_goals simp [OutputSpec.keys] at h

theorem outputPart_of_pvc {pvc : PvcOutput} {name : String} (hn : b.metadata.name = some name)
    (chosen : b.spec.output.destination = .ok (.pvc pvc)) (hc : pvc.createIfMissing = false) :
    ∃ part : Option String → PodPart, outputPart b = (subPath pvc).map part := by
  obtain ⟨filename, hfile⟩ := outputFilename_of_name hn
  refine ⟨fun sub => {
    env := [envVar Worker.outputFilenameVar filename]
    volumes := [⟨outputVolume, .claim pvc.name⟩]
    mounts := [{ name := outputVolume, mountPath := Worker.outputDir, subPath := sub }] }, ?_⟩
  simp only [outputPart, chosen, hc, hfile, ofSpec, bind, Except.bind, Bool.false_eq_true, if_false]
  cases subPath pvc <;> rfl

/-- A single destination has a part in the pod exactly when it is a claim that is there already, and the
directory in it does not lead out of it. -/
theorem outputPart_of_one (hname : Requirement.Met b .name)
    (h : Requirement.Met b .oneDestination) :
    (¬ Requirement.Met b .supportedDestination ∧
        outputPart b = .error (Requirement.error b .supportedDestination)) ∨
      Requirement.Met b .supportedDestination ∧
        ((¬ Requirement.Met b .confinedPath ∧
            outputPart b = .error (Requirement.error b .confinedPath)) ∨
          Requirement.Met b .confinedPath ∧ ∃ part, outputPart b = .ok part) := by
  cases onlyDestination h with
  | objectStorage output there chosen =>
    refine Or.inl ⟨by simp [Requirement.Met, there], ?_⟩
    simp [outputPart, chosen, ofSpec, bind, Except.bind, Requirement.error, OutputSpec.keys, there,
      Destination.kind]
  | registry output storage there chosen =>
    refine Or.inl ⟨by simp [Requirement.Met, there], ?_⟩
    simp [outputPart, chosen, ofSpec, bind, Except.bind, Requirement.error, OutputSpec.keys, there,
      storage, Destination.kind]
  | pvc output there storage registry chosen =>
    cases hc : output.createIfMissing with
    | true =>
      refine Or.inl ⟨by simp [Requirement.Met, there, hc], ?_⟩
      simp [outputPart, chosen, hc, ofSpec, bind, Except.bind, Requirement.error, OutputSpec.keys,
        there, storage, registry]
    | false =>
      refine Or.inr ⟨⟨storage, registry, by simp [there, hc]⟩, ?_⟩
      obtain ⟨name, hn⟩ := Option.isSome_iff_exists.mp hname
      obtain ⟨part, hpart⟩ := outputPart_of_pvc hn chosen hc
      cases hp : output.subPath with
      | none =>
        have hdir : subPath output = .ok none := by simp [subPath, hp]
        exact Or.inr ⟨by simp [Requirement.Met, there, hp], part none, by rw [hpart, hdir]; rfl⟩
      | some path =>
        have hdir := subPath_of_some hp
        split at hdir
        next hleads =>
          refine Or.inl ⟨by simpa [Requirement.Met, there, hp] using hleads, ?_⟩
          rw [hpart, hdir]
          simp [Requirement.error, there, hp, Except.map]
        next hstays =>
          exact Or.inr ⟨by simpa [Requirement.Met, there, hp] using hstays, _,
            by rw [hpart, hdir]; rfl⟩

theorem builderJob_of_parts (hname : Requirement.Met b .name) (hns : Requirement.Met b .ns)
    (hbase : Requirement.Met b .baseImage) (settings : BuilderSettings) :
    ∃ job : PodPart → PodPart → Job, builderJob b settings = (do
      let provisioner ← provisionerPart b.spec
      let output ← outputPart b
      .ok (job provisioner output)) := by
  obtain ⟨name, hn⟩ := Option.isSome_iff_exists.mp hname
  obtain ⟨ns, hns⟩ := Option.isSome_iff_exists.mp hns
  have hb : Text.isBlankText b.spec.baseImage = false := Text.isBlankText_eq_false_iff.mpr hbase
  simp only [builderJob, hn, hns, hb, Bool.false_eq_true, if_false]
  exact ⟨_, rfl⟩

theorem builderJob_of_nameless (h : ¬ Requirement.Met b .name) (settings : BuilderSettings) :
    builderJob b settings = .error .missingName := by
  have hn : b.metadata.name = none := Option.not_isSome_iff_eq_none.mp h
  simp only [builderJob, hn]

theorem builderJob_of_homeless (hname : Requirement.Met b .name) (h : ¬ Requirement.Met b .ns)
    (settings : BuilderSettings) : builderJob b settings = .error .missingNamespace := by
  obtain ⟨name, hn⟩ := Option.isSome_iff_exists.mp hname
  have hns : b.metadata.ns = none := Option.not_isSome_iff_eq_none.mp h
  simp only [builderJob, hn, hns]

theorem builderJob_of_baseless (hname : Requirement.Met b .name) (hns : Requirement.Met b .ns)
    (h : ¬ Requirement.Met b .baseImage) (settings : BuilderSettings) :
    builderJob b settings = .error .emptyBaseImage := by
  obtain ⟨name, hn⟩ := Option.isSome_iff_exists.mp hname
  obtain ⟨ns, hns⟩ := Option.isSome_iff_exists.mp hns
  have hb : Text.isBlankText b.spec.baseImage = true := by
    rw [← Bool.not_eq_false, Text.isBlankText_eq_false_iff]
    exact h
  simp only [builderJob, hn, hns, hb, if_true, bind, Except.bind]

theorem builderJob_of_output
    (h : ∀ r : Requirement, r.rank < Requirement.oneDestination.rank → r.Met b)
    (settings : BuilderSettings) :
    ∃ job : PodPart → Job, builderJob b settings = (outputPart b).map job := by
  obtain ⟨job, hjob⟩ := builderJob_of_parts (h .name (by decide)) (h .ns (by decide))
    (h .baseImage (by decide)) settings
  obtain ⟨-, part, hpart⟩ | ⟨hnot, -⟩ := provisionerPart_of_one (h .oneProvisioner (by decide))
  · refine ⟨job part, ?_⟩
    rw [hjob, hpart]
    cases outputPart b <;> rfl
  · exact absurd (h .supportedProvisioner (by decide)) hnot

/-- The first requirement that is not met is told. -/
theorem builderJob_of_firstUnmet (h : r.FirstUnmet b) (settings : BuilderSettings) :
    builderJob b settings = .error (r.error b) := by
  obtain ⟨hunmet, hbefore⟩ := h
  cases r with
  | name => exact builderJob_of_nameless hunmet settings
  | ns => exact builderJob_of_homeless (hbefore .name (by decide)) hunmet settings
  | baseImage =>
    exact builderJob_of_baseless (hbefore .name (by decide)) (hbefore .ns (by decide)) hunmet
      settings
  | oneProvisioner =>
    obtain ⟨job, hjob⟩ := builderJob_of_parts (hbefore .name (by decide)) (hbefore .ns (by decide))
      (hbefore .baseImage (by decide)) settings
    rw [hjob, provisionerPart_of_conflict hunmet]
    rfl
  | supportedProvisioner =>
    obtain ⟨job, hjob⟩ := builderJob_of_parts (hbefore .name (by decide)) (hbefore .ns (by decide))
      (hbefore .baseImage (by decide)) settings
    obtain ⟨hmet, -⟩ | ⟨-, hpart⟩ := provisionerPart_of_one (hbefore .oneProvisioner (by decide))
    · exact absurd hmet hunmet
    · rw [hjob, hpart]
      rfl
  | oneDestination =>
    obtain ⟨job, hjob⟩ := builderJob_of_output hbefore settings
    rw [hjob, outputPart_of_not_one hunmet]
    rfl
  | supportedDestination =>
    obtain ⟨job, hjob⟩ := builderJob_of_output
      (fun r hr => hbefore r (Nat.lt_trans hr (by decide))) settings
    obtain ⟨-, hpart⟩ | ⟨hmet, -⟩ := outputPart_of_one (hbefore .name (by decide))
      (hbefore .oneDestination (by decide))
    · rw [hjob, hpart]
      rfl
    · exact absurd hmet hunmet
  | confinedPath =>
    obtain ⟨job, hjob⟩ := builderJob_of_output
      (fun r hr => hbefore r (Nat.lt_trans hr (by decide))) settings
    obtain ⟨hnot, -⟩ | ⟨-, ⟨-, hpart⟩ | ⟨hmet, -⟩⟩ := outputPart_of_one (hbefore .name (by decide))
      (hbefore .oneDestination (by decide))
    · exact absurd (hbefore .supportedDestination (by decide)) hnot
    · rw [hjob, hpart]
      rfl
    · exact absurd hmet hunmet

theorem builderJob_of_met (h : ∀ r : Requirement, r.Met b) (settings : BuilderSettings) :
    ∃ job, builderJob b settings = .ok job := by
  obtain ⟨job, hjob⟩ := builderJob_of_output (fun r _ => h r) settings
  obtain ⟨hnot, -⟩ | ⟨-, ⟨hnot, -⟩ | ⟨-, output, ho⟩⟩ :=
    outputPart_of_one (h .name) (h .oneDestination)
  · exact absurd (h .supportedDestination) hnot
  · exact absurd (h .confinedPath) hnot
  · exact ⟨job output, by rw [hjob, ho]; rfl⟩

theorem builderJob_isOk_iff :
    (∃ job, builderJob b settings = .ok job) ↔ ∀ r : Requirement, r.Met b :=
  (met_iff_and_error_iff (fun h => builderJob_of_met h settings)
    fun _ hr => builderJob_of_firstUnmet hr settings).1

theorem builderJob_error_iff :
    builderJob b settings = .error e ↔ ∃ r : Requirement, r.FirstUnmet b ∧ e = r.error b :=
  (met_iff_and_error_iff (fun h => builderJob_of_met h settings)
    fun _ hr => builderJob_of_firstUnmet hr settings).2 e

/-- An image build of which a builder job can be made: it has a name, a namespace and a base image, asks
for a playbook without credentials at most, and its artifacts go into a claim that is there already. -/
structure Acceptable (b : ImageBuild) : Prop where
  name : ∃ name, b.metadata.name = some name
  ns : ∃ ns, b.metadata.ns = some ns
  baseImage : ∃ c ∈ b.spec.baseImage.toList, ¬ Text.isBlank c
  provisioner : b.spec.provisioner = none ∨ b.spec.provisioner = some ⟨none, none⟩ ∨
    ∃ a, b.spec.provisioner = some ⟨some a, none⟩ ∧
      (a.credentialsSecretName = none ∨ a.credentialsSecretName = some "")
  output : ∃ pvc, b.spec.output.pvc = some pvc ∧ b.spec.output.objectStorage = none ∧
    b.spec.output.registry = none ∧ pvc.createIfMissing = false ∧
    ∀ path, pvc.subPath = some path →
      ['.', '.'] ∉ (trimmedPath path).splitOn '/'

theorem provisioner_met_iff {spec : ImageBuildSpec} :
    spec.provisionerKeys.length ≤ 1 ∧ (∀ p ∈ spec.provisioner, p.packer = none ∧
      ∀ a ∈ p.ansible, ∀ secret ∈ a.credentialsSecretName, secret = "") ↔
    spec.provisioner = none ∨ spec.provisioner = some ⟨none, none⟩ ∨
      ∃ a, spec.provisioner = some ⟨some a, none⟩ ∧
        (a.credentialsSecretName = none ∨ a.credentialsSecretName = some "") := by
  obtain ⟨_, _, _, provisioner, _, _⟩ := spec
  obtain _ | ⟨_ | ansible, _ | packer⟩ := provisioner
  case some.some.none =>
    cases hc : ansible.credentialsSecretName <;>
      simp [ImageBuildSpec.provisionerKeys, ProvisionerSpec.keys, hc]
  all_goals simp [ImageBuildSpec.provisionerKeys, ProvisionerSpec.keys]

theorem acceptable_iff : Acceptable b ↔ ∀ r : Requirement, r.Met b := by
  constructor
  · rintro ⟨hname, hns, hbase, hprovisioner, pvc, hpvc, hstorage, hregistry, hcreate, hpath⟩
    obtain ⟨hone, hsupported⟩ := provisioner_met_iff.mpr hprovisioner
    intro r
    cases r with
    | name => exact Option.isSome_iff_exists.mpr hname
    | ns => exact Option.isSome_iff_exists.mpr hns
    | baseImage => exact hbase
    | oneProvisioner => exact hone
    | supportedProvisioner => exact hsupported
    | oneDestination => simp [Requirement.Met, OutputSpec.keys, hpvc, hstorage, hregistry]
    | supportedDestination => exact ⟨hstorage, hregistry, by simp [hpvc, hcreate]⟩
    | confinedPath => simpa [Requirement.Met, hpvc] using hpath
  · intro h
    obtain ⟨hstorage, hregistry, hcreate⟩ := h .supportedDestination
    have hconfined := h .confinedPath
    cases onlyDestination (h .oneDestination) with
    | objectStorage _ there _ => cases hstorage.symm.trans there
    | registry _ _ there _ => cases hregistry.symm.trans there
    | pvc pvc there _ _ _ =>
      simp only [Requirement.Met, there, Option.mem_def, Option.some.injEq, forall_eq']
        at hcreate hconfined
      exact {
        name := Option.isSome_iff_exists.mp (h .name)
        ns := Option.isSome_iff_exists.mp (h .ns)
        baseImage := h .baseImage
        provisioner := provisioner_met_iff.mp ⟨h .oneProvisioner, h .supportedProvisioner⟩
        output := ⟨pvc, there, hstorage, hregistry, hcreate, hconfined⟩ }

/-- A builder job is made of the acceptable image builds and of no others, whatever the settings are; of
what an image build lacks, the first is told. -/
theorem job_made_iff_acceptable (b : ImageBuild) (settings : BuilderSettings) :
    ((∃ job, builderJob b settings = .ok job) ↔ Acceptable b) ∧
      ∀ e, builderJob b settings = .error e ↔
        ∃ r : Requirement, r.FirstUnmet b ∧ e = r.error b :=
  ⟨builderJob_isOk_iff.trans acceptable_iff.symm, fun _ => builderJob_error_iff⟩

def intoDirectory (path : String) : ImageBuild :=
  { plainImageBuild with spec := { plainImageBuild.spec with
    output := { plainImageBuild.spec.output with pvc := some ⟨"artifacts", some path, false⟩ } } }

/-- An image build with two provisioners whose directory leads upwards. -/
def twiceFaulty : ImageBuild :=
  let b := intoDirectory " /images/../web/ "
  { b with spec := { b.spec with
    provisioner := some ⟨some ⟨"https://git.local/site", none, "main", "site.yml", none⟩,
      some ⟨"https://git.local/site", none, none, "web.pkr.hcl"⟩⟩ } }

/-- A directory that merely begins and ends with slashes is taken. One that leads upwards is told, unless
there is a fault before it. -/
theorem first_of_two_faults_told :
    (∃ job, builderJob (intoDirectory " /images/web../ ") {} = .ok job) ∧
      builderJob (intoDirectory " /images/../web/ ") {} =
        .error (.invalidSubPath " /images/../web/ ") ∧
      builderJob twiceFaulty {} =
        .error (.invalidSpec (.conflictingVariants "provisioner" ["ansible", "packer"])) := by
  refine ⟨(job_made_iff_acceptable _ _).1.mpr (acceptable_iff.mpr fun r => ?_),
    ((job_made_iff_acceptable _ _).2 _).mpr ⟨.confinedPath, ⟨by decide, fun r hr => ?_⟩, rfl⟩,
    ((job_made_iff_acceptable _ _).2 _).mpr ⟨.oneProvisioner, ⟨by decide, fun r hr => ?_⟩, rfl⟩⟩
  · cases r with
    | baseImage => exact ⟨'u', by decide, by decide⟩
    | _ => decide
  · cases r with
    | baseImage => exact ⟨'u', by decide, by decide⟩
    | confinedPath => exact absurd hr (by decide)
    | _ => decide
  · cases r with
    | baseImage => exact ⟨'u', by decide, by decide⟩
    | name | ns => decide
    | _ => exact absurd hr (by decide)

end Controller

end ImageForge
