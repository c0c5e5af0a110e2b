import ImageForge.Json.Reader
import ImageForge.Proofs.Json.Layout
import ImageForge.Proofs.Resource.StatusPatch

/-! The documents of a desired and of an observed state. Each part is read back from what is written of
it, and its reader overlooks what it does not know. -/
namespace ImageForge

open Json Decode

theorem Decode.nullable_instant {o : Option Instant} (h : ∀ t, o = some t → t.IsValid) :
    o.elim (.ok none) (nullable instant ∘ (.str ·.render)) = .ok o :=
  nullable_written fun t ht => ⟨nofun, instant_render (h t ht)⟩

theorem Architecture.ofJson_toJson (a : Architecture) : ofJson a.toJson = .ok a := by
  cases a <;> rfl

theorem ArtifactFormat.ofJson_toJson (f : ArtifactFormat) : ofJson f.toJson = .ok f := by
  cases f <;> rfl

theorem Phase.ofJson_toJson (p : Phase) : ofJson p.toJson = .ok p := by
  cases p <;> rfl

namespace AnsibleSpec

def known : List (String × Bool × Layout) := [
  ("repo", false, .whole), ("credentialsSecretName", true, .whole), ("branch", false, .whole),
  ("playbook", false, .whole), ("extraVars", true, .whole)]

theorem suits : List.Forall₂ Suits parts known := by
  simp [parts, known]

@[simp] theorem overlooks : Overlooks (.record known) ofJson := by
  refine overlooks_record suits (by simp [known]) fun fields fields' h => ?_
  refine (keeps_field? h (overlooks_whole _) (by simp [known])).bind fun branch => ?_
  refine (keeps_optional h (overlooks_whole _) (by simp [known])).bind fun credentials => ?_
  refine (keeps_optional h (overlooks_whole _) (by simp [known])).bind fun extraVars => ?_
  refine (keeps_field? h (overlooks_whole _) (by simp [known])).bind fun playbook => ?_
  refine (keeps_field? h (overlooks_whole _) (by simp [known])).bind fun repo => ?_
  exact .refl _

/-- Extra variables that are null would be read as none. -/
def Lasting (a : AnsibleSpec) : Prop := a.extraVars ≠ some .null

theorem lasting_of_ofJson {v : Json} {a : AnsibleSpec} (h : ofJson v = .ok a) : a.Lasting := by
  obtain ⟨fields, -, h⟩ := ok_of_bind h
  obtain ⟨_, -, h⟩ := ok_of_bind h
  obtain ⟨_, -, h⟩ := ok_of_bind h
  obtain ⟨extraVars, hextra, h⟩ := ok_of_bind h
  iterate 4 obtain ⟨_, -, h⟩ := ok_of_bind h
  cases h
  rintro rfl
  obtain ⟨v, hfound, hv⟩ := read_of_optional hextra
  cases hv
  rw [optional_eq, hfound] at hextra
  cases hextra

theorem readsBack {a : AnsibleSpec} (ha : a.Lasting) : ReadsBack toJson ofJson a := by
  refine ⟨nofun, ?_⟩
  have hfields : Decode.record "AnsibleSpec" parts a.toJson = .ok (fieldsOf a.toJson) := rfl
  have hfound : ∀ key, lookup key (fieldsOf a.toJson) = _ := lookup_ofOptional (by simp)
  have hextra : a.extraVars.elim (.ok none) (nullable fun v => .ok v) = .ok a.extraVars := by
    refine nullable_written fun v hv => ⟨?_, rfl⟩
    rintro rfl
    exact ha hv
  simp [ofJson, hfields, optional_eq, field?_eq, hfound, hextra, required, bind, Except.bind,
    Except.map, pure, Except.pure]

end AnsibleSpec

namespace PackerSpec

def known : List (String × Bool × Layout) := [
  ("repo", false, .whole), ("credentialsSecretName", true, .whole), ("branch", true, .whole),
  ("templatePath", false, .whole)]

theorem suits : List.Forall₂ Suits parts known := by
  simp [parts, known]

@[simp] theorem overlooks : Overlooks (.record known) ofJson := by
  refine overlooks_record suits (by simp [known]) fun fields fields' h => ?_
  refine (keeps_optional h (overlooks_whole _) (by simp [known])).bind fun branch => ?_
  refine (keeps_optional h (overlooks_whole _) (by simp [known])).bind fun credentials => ?_
  refine (keeps_field? h (overlooks_whole _) (by simp [known])).bind fun repo => ?_
  refine (keeps_field? h (overlooks_whole _) (by simp [known])).bind fun templatePath => ?_
  exact .refl _

theorem readsBack (p : PackerSpec) : ReadsBack toJson ofJson p := by
  refine ⟨nofun, ?_⟩
  have hfields : Decode.record "PackerSpec" parts p.toJson = .ok (fieldsOf p.toJson) := rfl
  have hfound : ∀ key, lookup key (fieldsOf p.toJson) = _ := lookup_ofOptional (by simp)
  simp [ofJson, hfields, optional_eq, field?_eq, hfound, required, bind, Except.bind, Except.map,
    pure, Except.pure]

end PackerSpec

namespace ProvisionerSpec

def known : List (String × Bool × Layout) := [
  ("ansible", true, .record AnsibleSpec.known), ("packer", true, .record PackerSpec.known)]

theorem suits : List.Forall₂ Suits parts known := by
  simp [parts, known]

@[simp] theorem overlooks : Overlooks (.record known) ofJson := by
  refine overlooks_record suits (by simp [known]) fun fields fields' h => ?_
  refine (keeps_optional h AnsibleSpec.overlooks (by simp [known])).bind fun ansible => ?_
  refine (keeps_optional h PackerSpec.overlooks (by simp [known])).bind fun packer => ?_
  exact .refl _

def Lasting (p : ProvisionerSpec) : Prop := ∀ a, p.ansible = some a → a.Lasting

theorem lasting_of_ofJson {v : Json} {p : ProvisionerSpec} (h : ofJson v = .ok p) : p.Lasting := by
  obtain ⟨fields, -, h⟩ := ok_of_bind h
  obtain ⟨ansible, hansible, h⟩ := ok_of_bind h
  obtain ⟨_, -, h⟩ := ok_of_bind h
  cases h
  rintro a rfl
  obtain ⟨v, -, hread⟩ := read_of_optional hansible
  exact AnsibleSpec.lasting_of_ofJson hread

theorem readsBack {p : ProvisionerSpec} (hp : p.Lasting) : ReadsBack toJson ofJson p := by
  refine ⟨nofun, ?_⟩
  have hfields : Decode.record "ProvisionerSpec" parts p.toJson = .ok (fieldsOf p.toJson) := rfl
  have hfound : ∀ key, lookup key (fieldsOf p.toJson) = _ := lookup_ofOptional (by simp)
  have hansible := nullable_written fun a ha => AnsibleSpec.readsBack (hp a ha)
  have hpacker := nullable_written fun a (_ : p.packer = some a) => a.readsBack
  simp [ofJson, hfields, optional_eq, hfound, hansible, hpacker, bind, Except.bind, pure,
    Except.pure]

end ProvisionerSpec

namespace PvcOutput

def known : List (String × Bool × Layout) := [
  ("name", false, .whole), ("subPath", true, .whole), ("createIfMissing", false, .whole)]

theorem suits : List.Forall₂ Suits parts known := by
  simp [parts, known]

@[simp] theorem overlooks : Overlooks (.record known) ofJson := by
  refine overlooks_record suits (by simp [known]) fun fields fields' h => ?_
  refine (keeps_field? h (overlooks_whole _) (by simp [known])).bind fun createIfMissing => ?_
  refine (keeps_field? h (overlooks_whole _) (by simp [known])).bind fun name => ?_
  refine (keeps_optional h (overlooks_whole _) (by simp [known])).bind fun subPath => ?_
  exact .refl _

theorem readsBack (p : PvcOutput) : ReadsBack toJson ofJson p := by
  refine ⟨nofun, ?_⟩
  have hfields : Decode.record "PvcOutput" parts p.toJson = .ok (fieldsOf p.toJson) := rfl
  have hfound : ∀ key, lookup key (fieldsOf p.toJson) = _ := lookup_ofOptional (by simp)
  simp [ofJson, hfields, optional_eq, field?_eq, hfound, required, boolean, bind, Except.bind,
    Except.map, pure, Except.pure]

end PvcOutput

namespace ObjectStorageOutput

def known : List (String × Bool × Layout) := [
  ("bucket", false, .whole), ("region", true, .whole), ("credentialsSecretName", false, .whole)]

theorem suits : List.Forall₂ Suits parts known := by
  simp [parts, known]

@[simp] theorem overlooks : Overlooks (.record known) ofJson := by
  refine overlooks_record suits (by simp [known]) fun fields fields' h => ?_
  refine (keeps_field? h (overlooks_whole _) (by simp [known])).bind fun bucket => ?_
  refine (keeps_field? h (overlooks_whole _) (by simp [known])).bind fun credentials => ?_
  refine (keeps_optional h (overlooks_whole _) (by simp [known])).bind fun region => ?_
  exact .refl _

theorem readsBack (o : ObjectStorageOutput) : ReadsBack toJson ofJson o := by
  refine ⟨nofun, ?_⟩
  have hfields : Decode.record "ObjectStorageOutput" parts o.toJson = .ok (fieldsOf o.toJson) := rfl
  have hfound : ∀ key, lookup key (fieldsOf o.toJson) = _ := lookup_ofOptional (by simp)
  simp [ofJson, hfields, optional_eq, field?_eq, hfound, required, bind, Except.bind, Except.map,
    pure, Except.pure]

end ObjectStorageOutput

namespace RegistryOutput

def known : List (String × Bool × Layout) := [
  ("destination", false, .whole), ("pullSecretName", false, .whole)]

theorem suits : List.Forall₂ Suits parts known := by
  simp [parts, known]

@[simp] theorem overlooks : Overlooks (.record known) ofJson := by
  refine overlooks_record suits (by simp [known]) fun fields fields' h => ?_
  refine (keeps_field? h (overlooks_whole _) (by simp [known])).bind fun destination => ?_
  refine (keeps_field? h (overlooks_whole _) (by simp [known])).bind fun pullSecretName => ?_
  exact .refl _

theorem readsBack (r : RegistryOutput) : ReadsBack toJson ofJson r := by
  refine ⟨nofun, ?_⟩
  have hfields : Decode.record "RegistryOutput" parts r.toJson = .ok (fieldsOf r.toJson) := rfl
  have hfound : ∀ key, lookup key (fieldsOf r.toJson) = _ := lookup_ofEntries (by simp)
  simp [ofJson, hfields, field?_eq, hfound, lookup_cons, required, bind, Except.bind, Except.map,
    pure, Except.pure]

end RegistryOutput

namespace OutputSpec

def known : List (String × Bool × Layout) := [
  ("imageName", true, .whole), ("pvc", true, .record PvcOutput.known),
  ("objectStorage", true, .record ObjectStorageOutput.known),
  ("registry", true, .record RegistryOutput.known), ("formats", false, .whole)]

theorem suits : List.Forall₂ Suits parts known := by
  simp [parts, known]

@[simp] theorem overlooks : Overlooks (.record known) ofJson := by
  refine overlooks_record suits (by simp [known]) fun fields fields' h => ?_
  refine (keeps_field? h (overlooks_whole _) (by simp [known])).bind fun formats => ?_
  refine (keeps_optional h (overlooks_whole _) (by simp [known])).bind fun imageName => ?_
  refine (keeps_optional h ObjectStorageOutput.overlooks (by simp [known])).bind fun storage => ?_
  refine (keeps_optional h PvcOutput.overlooks (by simp [known])).bind fun pvc => ?_
  refine (keeps_optional h RegistryOutput.overlooks (by simp [known])).bind fun registry => ?_
  exact .refl _

theorem readsBack (o : OutputSpec) : ReadsBack toJson ofJson o := by
  refine ⟨nofun, ?_⟩
  have hfields : Decode.record "OutputSpec" parts o.toJson = .ok (fieldsOf o.toJson) := rfl
  have hfound : ∀ key, lookup key (fieldsOf o.toJson) = _ := lookup_ofOptional (by simp)
  have hpvc := nullable_written fun a (_ : o.pvc = some a) => a.readsBack
  have hstorage := nullable_written fun a (_ : o.objectStorage = some a) => a.readsBack
  have hregistry := nullable_written fun a (_ : o.registry = some a) => a.readsBack
  have hformats : Decode.list ArtifactFormat.ofJson (.arr (o.formats.map (·.toJson))) =
      .ok o.formats := mapM_map_ok fun f _ => f.ofJson_toJson
  simp [ofJson, hfields, optional_eq, field?_eq, hfound, hpvc, hstorage, hregistry, hformats, bind,
    Except.bind, Except.map, pure, Except.pure]

end OutputSpec

namespace AwsPublish

def known : List (String × Bool × Layout) := [
  ("region", false, .whole), ("amiName", false, .whole), ("instanceType", false, .whole),
  ("sourceS3Bucket", false, .whole), ("credentialsSecretName", false, .whole)]

theorem suits : List.Forall₂ Suits parts known := by
  simp [parts, known]

@[simp] theorem overlooks : Overlooks (.record known) ofJson := by
  refine overlooks_record suits (by simp [known]) fun fields fields' h => ?_
  refine (keeps_field? h (overlooks_whole _) (by simp [known])).bind fun amiName => ?_
  refine (keeps_field? h (overlooks_whole _) (by simp [known])).bind fun credentials => ?_
  refine (keeps_field? h (overlooks_whole _) (by simp [known])).bind fun instanceType => ?_
  refine (keeps_field? h (overlooks_whole _) (by simp [known])).bind fun region => ?_
  refine (keeps_field? h (overlooks_whole _) (by simp [known])).bind fun sourceS3Bucket => ?_
  exact .refl _

theorem readsBack (a : AwsPublish) : ReadsBack toJson ofJson a := by
  refine ⟨nofun, ?_⟩
  have hfields : Decode.record "AwsPublishSpec" parts a.toJson = .ok (fieldsOf a.toJson) := rfl
  have hfound : ∀ key, lookup key (fieldsOf a.toJson) = _ := lookup_ofEntries (by simp)
  simp [ofJson, hfields, field?_eq, hfound, lookup_cons, required, bind, Except.bind, Except.map,
    pure, Except.pure]

end AwsPublish

namespace MaasPublish

def known : List (String × Bool × Layout) := [
  ("apiUrl", false, .whole), ("imageName", false, .whole),
  ("credentialsSecretName", false, .whole)]

theorem suits : List.Forall₂ Suits parts known := by
  simp [parts, known]

@[simp] theorem overlooks : Overlooks (.record known) ofJson := by
  refine overlooks_record suits (by simp [known]) fun fields fields' h => ?_
  refine (keeps_field? h (overlooks_whole _) (by simp [known])).bind fun apiUrl => ?_
  refine (keeps_field? h (overlooks_whole _) (by simp [known])).bind fun credentials => ?_
  refine (keeps_field? h (overlooks_whole _) (by simp [known])).bind fun imageName => ?_
  exact .refl _

theorem readsBack (m : MaasPublish) : ReadsBack toJson ofJson m := by
  refine ⟨nofun, ?_⟩
  have hfields : Decode.record "MaasPublishSpec" parts m.toJson = .ok (fieldsOf m.toJson) := rfl
  have hfound : ∀ key, lookup key (fieldsOf m.toJson) = _ := lookup_ofEntries (by simp)
  simp [ofJson, hfields, field?_eq, hfound, lookup_cons, required, bind, Except.bind, Except.map,
    pure, Except.pure]

end MaasPublish

namespace PublishSpec

def known : List (String × Bool × Layout) := [
  ("aws", true, .record AwsPublish.known), ("maas", true, .record MaasPublish.known)]

theorem suits : List.Forall₂ Suits parts known := by
  simp [parts, known]

@[simp] theorem overlooks : Overlooks (.record known) ofJson := by
  refine overlooks_record suits (by simp [known]) fun fields fields' h => ?_
  refine (keeps_optional h AwsPublish.overlooks (by simp [known])).bind fun aws => ?_
  refine (keeps_optional h MaasPublish.overlooks (by simp [known])).bind fun maas => ?_
  exact .refl _

theorem readsBack (p : PublishSpec) : ReadsBack toJson ofJson p := by
  refine ⟨nofun, ?_⟩
  have hfields : Decode.record "PublishSpec" parts p.toJson = .ok (fieldsOf p.toJson) := rfl
  have hfound : ∀ key, lookup key (fieldsOf p.toJson) = _ := lookup_ofOptional (by simp)
  have haws := nullable_written fun a (_ : p.aws = some a) => a.readsBack
  have hmaas := nullable_written fun a (_ : p.maas = some a) => a.readsBack
  simp [ofJson, hfields, optional_eq, hfound, haws, hmaas, bind, Except.bind, pure, Except.pure]

end PublishSpec

namespace ImageBuildSpec

def known : List (String × Bool × Layout) := [
  ("arch", false, .whole), ("baseImage", false, .whole), ("baseImagePullSecretName", true, .whole),
  ("provisioner", true, .record ProvisionerSpec.known), ("output", false, .record OutputSpec.known),
  ("publish", true, .record PublishSpec.known)]

theorem suits : List.Forall₂ Suits parts known := by
  simp [parts, known]

@[simp] theorem overlooks : Overlooks (.record known) ofJson := by
  refine overlooks_record suits (by simp [known]) fun fields fields' h => ?_
  refine (keeps_field? h (overlooks_whole _) (by simp [known])).bind fun arch => ?_
  refine (keeps_field? h (overlooks_whole _) (by simp [known])).bind fun baseImage => ?_
  refine (keeps_optional h (overlooks_whole _) (by simp [known])).bind fun pullSecret => ?_
  refine (keeps_field? h OutputSpec.overlooks (by simp [known])).bind fun output => ?_
  refine (keeps_optional h ProvisionerSpec.overlooks (by simp [known])).bind fun provisioner => ?_
  refine (keeps_optional h PublishSpec.overlooks (by simp [known])).bind fun publish => ?_
  exact .refl _

def Lasting (s : ImageBuildSpec) : Prop := ∀ p, s.provisioner = some p → p.Lasting

theorem lasting_of_ofJson {v : Json} {s : ImageBuildSpec} (h : ofJson v = .ok s) : s.Lasting := by
  obtain ⟨fields, -, h⟩ := ok_of_bind h
  iterate 4 obtain ⟨_, -, h⟩ := ok_of_bind h
  obtain ⟨provisioner, hprovisioner, h⟩ := ok_of_bind h
  iterate 3 obtain ⟨_, -, h⟩ := ok_of_bind h
  cases h
  rintro p rfl
  obtain ⟨v, -, hread⟩ := read_of_optional hprovisioner
  exact ProvisionerSpec.lasting_of_ofJson hread

theorem readsBack {s : ImageBuildSpec} (hs : s.Lasting) : ReadsBack toJson ofJson s := by
  refine ⟨nofun, ?_⟩
  have hfields : Decode.record "ImageBuildSpec" parts s.toJson = .ok (fieldsOf s.toJson) := rfl
  have hfound : ∀ key, lookup key (fieldsOf s.toJson) = _ := lookup_ofOptional (by simp)
  have hprovisioner := nullable_written fun p hp => ProvisionerSpec.readsBack (hs p hp)
  have hpublish := nullable_written fun a (_ : s.publish = some a) => a.readsBack
  simp [ofJson, hfields, optional_eq, field?_eq, hfound, s.arch.ofJson_toJson, s.output.readsBack.2,
    hprovisioner, hpublish, required, bind, Except.bind, Except.map, pure, Except.pure]

end ImageBuildSpec

namespace Condition

def known : List (String × Bool × Layout) := [
  ("type", false, .whole), ("status", false, .whole), ("reason", false, .whole),
  ("message", false, .whole), ("lastTransitionTime", false, .whole)]

theorem suits : List.Forall₂ Suits parts known := by
  simp [parts, known]

@[simp] theorem overlooks : Overlooks (.record known) ofJson := by
  refine overlooks_record suits (by simp [known]) fun fields fields' h => ?_
  refine (keeps_field? h (overlooks_whole _) (by simp [known])).bind fun time => ?_
  refine (keeps_field? h (overlooks_whole _) (by simp [known])).bind fun message => ?_
  refine (keeps_field? h (overlooks_whole _) (by simp [known])).bind fun reason => ?_
  refine (keeps_field? h (overlooks_whole _) (by simp [known])).bind fun status => ?_
  refine (keeps_field? h (overlooks_whole _) (by simp [known])).bind fun type => ?_
  exact .refl _

end Condition

namespace ImageBuildStatus

def known : List (String × Bool × Layout) := [
  ("phase", false, .whole), ("conditions", false, .list (.record Condition.known)),
  ("startTime", true, .whole), ("completionTime", true, .whole), ("builderJobName", true, .whole),
  ("outputURL", true, .whole), ("observedGeneration", true, .whole)]

theorem suits : List.Forall₂ Suits parts known := by
  simp [parts, known]

@[simp] theorem overlooks : Overlooks (.record known) ofJson := by
  refine overlooks_record suits (by simp [known]) fun fields fields' h => ?_
  refine (keeps_optional h (overlooks_whole _) (by simp [known])).bind fun builderJobName => ?_
  refine (keeps_optional h (overlooks_whole _) (by simp [known])).bind fun completionTime => ?_
  refine (keeps_field? h (overlooks_list Condition.overlooks) (by simp [known])).bind
    fun conditions => ?_
  refine (keeps_optional h (overlooks_whole _) (by simp [known])).bind fun generation => ?_
  refine (keeps_optional h (overlooks_whole _) (by simp [known])).bind fun outputUrl => ?_
  refine (keeps_field? h (overlooks_whole _) (by simp [known])).bind fun phase => ?_
  refine (keeps_optional h (overlooks_whole _) (by simp [known])).bind fun startTime => ?_
  exact .refl _

theorem reads_toJson {s : ImageBuildStatus} (hs : s.InRange) : Reads (fieldsOf s.toJson) s where
  builderJobName := by simp [optional_eq, lookup_toJson]
  completionTime := by
    simpa [optional_eq, lookup_toJson] using nullable_instant hs.completionTime
  conditions := by
    have hlist : Decode.list Condition.ofJson (.arr (s.conditions.map (·.toJson))) =
        .ok s.conditions := mapM_map_ok fun c hc => Condition.ofJson_toJson (hs.conditions c hc)
    cases hnone : s.conditions.isEmpty with
    | true => simp [field?_eq, lookup_toJson, List.isEmpty_iff.mp hnone, Except.map]
    | false => simp [field?_eq, lookup_toJson, hnone, hlist, Except.map]
  observedGeneration := by
    have hwritten := nullable_written fun n hn =>
      (⟨nofun, int64_ofInt (hs.observedGeneration n hn)⟩ : ReadsBack .ofInt int64 n)
    simpa [optional_eq, lookup_toJson] using hwritten
  outputUrl := by simp [optional_eq, lookup_toJson]
  phase := by simp [field?_eq, lookup_toJson, s.phase.ofJson_toJson, Except.map]
  startTime := by
    simpa [optional_eq, lookup_toJson] using nullable_instant hs.startTime

theorem readsBack {s : ImageBuildStatus} (hs : s.InRange) : ReadsBack toJson ofJson s :=
  ⟨nofun, (reads_toJson hs).ofFields⟩

theorem inRange_of_ofJson {v : Json} {s : ImageBuildStatus} (h : ofJson v = .ok s) : s.InRange := by
  obtain ⟨fields, -, h⟩ := ok_of_bind h
  exact (reads_of_ofFields h).inRange

end ImageBuildStatus

/-- Desired and observed states survive their documents: what is read is written so that it is read again,
and neither keys that are not known nor null for absence change anything, at any level. This is about trees
of values and not about texts: a double that is written need not be the one that is read from its text. -/
theorem states_round_trip :
    (RoundTrips (.record ImageBuildSpec.known) ImageBuildSpec.toJson ImageBuildSpec.ofJson ∧
      ∀ spec : ImageBuildSpec, ImageBuildSpec.ofJson spec.toJson = .ok spec ↔ spec.Lasting) ∧
    RoundTrips (.record ImageBuildStatus.known) ImageBuildStatus.toJson ImageBuildStatus.ofJson ∧
      ∀ status : ImageBuildStatus,
        ImageBuildStatus.ofJson status.toJson = .ok status ↔ status.InRange := by
  refine ⟨⟨?_, fun spec => ⟨?_, ?_⟩⟩, ?_, fun status => ⟨?_, ?_⟩⟩
  · exact ImageBuildSpec.overlooks.roundTrips fun doc spec h =>
      ImageBuildSpec.readsBack (ImageBuildSpec.lasting_of_ofJson h)
  · exact ImageBuildSpec.lasting_of_ofJson
  · exact fun hlasting => (ImageBuildSpec.readsBack hlasting).2
  · exact ImageBuildStatus.overlooks.roundTrips fun doc status h =>
      ImageBuildStatus.readsBack (ImageBuildStatus.inRange_of_ofJson h)
  · exact ImageBuildStatus.inRange_of_ofJson
  · exact fun hrange => (ImageBuildStatus.readsBack hrange).2

/-- The document of a desired state, with what stands beside the name of its claim and beside its parts. -/
def claimSpec (claim others : List (String × Json)) : Json :=
  .ofEntries ([
    ("baseImage", .str "ubuntu"),
    ("output", .ofEntries [("pvc", .ofEntries (("name", .str "artifacts") :: claim))]),
    ("provisioner", .ofEntries [("ansible", .ofEntries [
      ("repo", .str "https://git.example.com/base.git"), ("playbook", .str "site.yml"),
      ("extraVars", .ofEntries [("release", .null)])])])] ++ others)

/-- The document of an observed state with one condition, as the list of its parts, with what stands beside
the parts of the condition and behind the last one. -/
def conditionStatus (others : List (String × Json)) (behind : List Json) : Json :=
  .arr ([.str "Building", .arr [.ofEntries ([
    ("type", .str "OutputReady"), ("status", .str "Unknown"), ("reason", .str "Initializing"),
    ("lastTransitionTime", .str "1970-01-01T00:00:00Z")] ++ others)]] ++ behind)

/-- Two documents, and the same with more in them than their readers look at. The second is the list of its
parts. -/
theorem padded_states_round_trip :
    (∃ spec, ImageBuildSpec.ofJson (claimSpec [] []) = .ok spec ∧
      ImageBuildSpec.ofJson spec.toJson = .ok spec ∧
      ImageBuildSpec.ofJson (claimSpec [("tier", .str "cold")] [("publish", .null)]) = .ok spec) ∧
    ∃ status, ImageBuildStatus.ofJson (conditionStatus [] []) = .ok status ∧
      ImageBuildStatus.ofJson status.toJson = .ok status ∧
      ImageBuildStatus.ofJson (conditionStatus [("observer", .str "probe")] [.null]) = .ok status := by
  obtain ⟨⟨hspec, -⟩, hstatus, -⟩ := states_round_trip
  constructor
  · have hread : ImageBuildSpec.ofJson (claimSpec [] []) = .ok _ := rfl
    have hpublish : ("publish", true, .record PublishSpec.known) ∈ ImageBuildSpec.known := by
      simp [ImageBuildSpec.known]
    have hnull : Padded (.record ImageBuildSpec.known) (claimSpec [] [])
        (claimSpec [] [("publish", .null)]) := .null hpublish rfl
    have htier : "tier" ∉ PvcOutput.known.map (·.1) := by simp [PvcOutput.known]
    have hpvc : ("pvc", true, .record PvcOutput.known) ∈ OutputSpec.known := by
      simp [OutputSpec.known]
    have houtput : ("output", false, .record OutputSpec.known) ∈ ImageBuildSpec.known := by
      simp [ImageBuildSpec.known]
    have hfound : lookup "output" (fieldsOf (claimSpec [] [("publish", .null)])) =
        some (.obj [("pvc", .obj [("name", .str "artifacts")])]) := rfl
    have hclaim : lookup "pvc" [("pvc", .obj [("name", .str "artifacts")])] =
        some (.obj [("name", .str "artifacts")]) := rfl
    have hunknown : Padded (.record ImageBuildSpec.known) (claimSpec [] [("publish", .null)])
        (claimSpec [("tier", .str "cold")] [("publish", .null)]) :=
      .field houtput hfound (.field hpvc hclaim (.unknown (.str "cold") htier))
    obtain ⟨hback, -, hpadded⟩ := hspec _ _ hread
    exact ⟨_, hread, hback, hpadded _ (.tail (.single hnull) hunknown)⟩
  · have hread : ImageBuildStatus.ofJson (conditionStatus [] []) =
        .ok {
          phase := .building
          conditions := [⟨.outputReady, .unknown, "Initializing", "", ⟨0, 0⟩⟩] } := rfl
    have hnull : Padded (.record ImageBuildStatus.known) (conditionStatus [] [])
        (conditionStatus [] [.null]) := .behind _ rfl
    have hobserver : "observer" ∉ Condition.known.map (·.1) := by simp [Condition.known]
    have hunknown : Padded (.record ImageBuildStatus.known) (conditionStatus [] [.null])
        (conditionStatus [("observer", .str "probe")] [.null]) :=
      .place [_] [.null] rfl (.item [] [] (.unknown (.str "probe") hobserver))
    obtain ⟨hback, -, hpadded⟩ := hstatus _ _ hread
    exact ⟨_, hread, hback, hpadded _ (.tail (.single hnull) hunknown)⟩

/-- The desired state that a text writes. -/
def specOfText? (text : String) : Option ImageBuildSpec := do
  (ImageBuildSpec.ofJson (← Json.parse? text)).toOption

/-- A desired state as the list of its parts, with a double for the variables of its playbook. -/
def doubleText : String :=
  "[\"arm64\", \"ubuntu\", null, [[\"base.git\", null, \"main\", \"site.yml\", 1e-25]], []]"

/-- An object that stands for one of some names takes no second key. And a double is not read from its text
exactly, so the state that is read from the text of another need not be that one. -/
theorem wire_exceptions :
    (∃ spec, ImageBuildSpec.ofJson
        (claimSpec [] [("arch", .ofEntries [("arm64", .null)])]) = .ok spec) ∧
    (∀ spec, ImageBuildSpec.ofJson
        (claimSpec [] [("arch", .ofEntries [("arm64", .null), ("tier", .null)])]) ≠ .ok spec) ∧
    (specOfText? doubleText).isSome ∧
    ((specOfText? doubleText).bind fun spec => specOfText? spec.toJson.render).map (·.toJson.render) ≠
      (specOfText? doubleText).map (·.toJson.render) := by
  refine ⟨⟨_, rfl⟩, fun spec h => ?_, ?_, ?_⟩
  · cases h
  · decide +kernel
  · decide +kernel

end ImageForge
