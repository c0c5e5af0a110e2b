import ImageForge.Proofs.Worker.Contract
import ImageForge.Proofs.Worker.Sequence

/-! The place that the controller gives for the archive of a build is the place where the worker writes
it, seen from outside the pod. -/
namespace ImageForge.Controller

open Text Worker

/-- At a path of a container lies a directory of a claim, or the claim itself, and nothing else. -/
def MountsClaim (job : Job) (c : Container) (path claim : String) (dir : Option String) : Prop :=
  ∃ mount, (c.volumeMounts.getD []).filter (·.mountPath = path) = [mount] ∧
    mount.subPath = dir ∧ job.volumes.filter (·.name = mount.name) = [⟨mount.name, .claim claim⟩]

def claimUrl (claim : String) (dir : Option String) (file : String) : String :=
  "pvc://" ++ claim ++ (match dir with | some dir => "/" ++ dir | none => "") ++ "/" ++ file

variable {b : ImageBuild} {spec : ImageBuildSpec} {settings : BuilderSettings} {job : Job}
  {provisioner output : PodPart} {c : Container} {filename : String}
  {ansible : Option AnsibleSpec} {e : Environment}

theorem outputUrl_eq {pvc : PvcOutput} {dir : Option String}
    (hd : ofSpec b.spec.output.destination = .ok (.pvc pvc))
    (hf : outputFilename b = .ok filename) (hs : subPath pvc = .ok dir) :
    outputUrl b = .ok (some (claimUrl pvc.name dir (filename ++ ".tar.gz"))) := by
  unfold outputUrl claimUrl
  simp only [hd, hf, hs, bind, Except.bind, pure, Except.pure]
  cases dir <;> simp [String.append_assoc]

theorem solid_outputFilename (hname : ∀ name, b.metadata.name = some name → Solid name.toList)
    (h : outputFilename b = .ok filename) : Solid filename.toList := by
  unfold outputFilename at h
  cases ha : (b.spec.output.imageName.map trim).filter (!·.isEmpty) with
  | some asked =>
    simp only [ha, Except.ok.injEq] at h
    subst h
    obtain ⟨hmap, hne⟩ := Option.filter_eq_some_iff.mp ha
    obtain ⟨raw, -, rfl⟩ := Option.map_eq_some_iff.mp hmap
    exact solid_trim (by simpa [isBlankText] using hne)
  | none =>
    cases hn : b.metadata.name with
    | none => simp [ha, hn] at h
    | some name =>
      simp only [ha, hn, Except.ok.injEq] at h
      exact h ▸ hname name hn

/-- Nothing but the output is mounted where the output is. -/
theorem podPart_output (hp : provisionerPart spec = .ok provisioner) :
    (podPart spec provisioner output).mounts.filter (·.mountPath = outputDir) =
        output.mounts.filter (·.mountPath = outputDir) ∧
      (podPart spec provisioner output).volumes.filter (·.name = outputVolume) =
        output.volumes.filter (·.name = outputVolume) := by
  have hsecret : (secretPart spec).mounts.filter (·.mountPath = outputDir) = [] ∧
      (secretPart spec).volumes.filter (·.name = outputVolume) = [] := by
    unfold secretPart
    split <;> exact ⟨rfl, rfl⟩
  have hprovisioner : provisioner.mounts.filter (·.mountPath = outputDir) = [] ∧
      provisioner.volumes.filter (·.name = outputVolume) = [] := by
    obtain ⟨-, rfl⟩ | ⟨a, -, rfl⟩ := provisionerPart_ok hp <;> exact ⟨rfl, rfl⟩
  have hbase : (basePart spec).mounts.filter (·.mountPath = outputDir) = [] ∧
      (basePart spec).volumes.filter (·.name = outputVolume) = [] := ⟨rfl, rfl⟩
  simp only [podPart, PodPart.append, List.filter_append, hbase.1, hbase.2, hsecret.1, hsecret.2,
    hprovisioner.1, hprovisioner.2, List.nil_append, and_self]

theorem Carries.outputFilename_of_read (h : Carries c spec filename ansible)
    (hsolid : Solid filename.toList) (he : Environment.read c.value? = .ok e) :
    e.outputFilename = filename := by
  obtain ⟨-, -, -, -, hfile, -⟩ := Environment.read_ok he
  rw [hfile, settings_eq, h.filename, Option.bind_some, unlessBlank_of_solid hsolid,
    Option.getD_some]

/-- The archive that a worker has written in the container of a builder job is the file of the output
URL: at the output directory lies the place in the claim that the URL begins with. -/
theorem archive_at_output_url (hjob : builderJob b settings = .ok job)
    (hname : ∀ name, b.metadata.name = some name → name ≠ "" ∧ trim name = name) :
    ∃ c claim dir file, job.containers = [c] ∧ MountsClaim job c "/output" claim dir ∧
      outputUrl b = .ok (some (claimUrl claim dir file)) ∧
      ∀ e, Environment.read c.value? = .ok e → ∀ runner authFile written,
        (perform runner [] (build e authFile)).result = .ok written →
          written.archive = "/output/" ++ file := by
  obtain ⟨c, filename, hc, hf, hcarries⟩ := builderJob_carries hjob
  obtain ⟨c', provisioner, output, hc', hp, ho, -, hmounts, hvolumes⟩ := builderJob_containers hjob
  cases hc.symm.trans hc'
  obtain ⟨pvc, filename', dir, hd, hf', hs, rfl⟩ := outputPart_ok ho
  cases hf.symm.trans hf'
  have hsolid : Solid filename.toList := by
    refine solid_outputFilename (fun name hn => ?_) hf
    obtain ⟨hne, htrim⟩ := hname name hn
    rw [← htrim]
    exact solid_trim (by simpa [isBlankText, htrim] using hne)
  refine ⟨c, pvc.name, dir, filename ++ ".tar.gz", hc, ?_, outputUrl_eq hd hf hs, ?_⟩
  · obtain ⟨hmount, hvolume⟩ := podPart_output hp
    exact ⟨_, by rw [hmounts]; exact hmount, rfl, by rw [hvolumes]; exact hvolume⟩
  · intro e he runner authFile written hok
    obtain ⟨-, rfl⟩ := build_ok hok
    rw [artifacts, hcarries.outputFilename_of_read hsolid he, String.append_assoc]

/-- A plain image build whose archive has a name of its own and a place below a directory. -/
def nightlyImageBuild : ImageBuild :=
  { plainImageBuild with spec := { plainImageBuild.spec with
    output := { plainImageBuild.spec.output with
      imageName := some " base "
      pvc := some ⟨"artifacts", some " /nightly/arm/ ", false⟩ } } }

def steadyRunner : Runner := fun _ _ => .ok "/root"

theorem nightly_archive_at_output_url :
    ∃ job c claim dir file e written, builderJob nightlyImageBuild {} = .ok job ∧
      job.containers = [c] ∧ MountsClaim job c "/output" claim dir ∧
      outputUrl nightlyImageBuild = .ok (some "pvc://artifacts/nightly/arm/base.tar.gz") ∧
      outputUrl nightlyImageBuild = .ok (some (claimUrl claim dir file)) ∧
      Environment.read c.value? = .ok e ∧
      (perform steadyRunner [] (build e none)).result = .ok written ∧
      written.archive = "/output/" ++ file := by
  have hjob : builderJob nightlyImageBuild {} = .ok _ := rfl
  have hname : ∀ name, nightlyImageBuild.metadata.name = some name →
      name ≠ "" ∧ trim name = name := by
    rintro name ⟨⟩
    exact ⟨by decide, by decide⟩
  obtain ⟨c, claim, dir, file, hc, hmounts, hurl, hwritten⟩ := archive_at_output_url hjob hname
  have he : Environment.read c.value? = .ok ⟨"ubuntu", .arm64, "base", [.tgz], none, none⟩ := by
    cases hc
    rfl
  have hok : (perform steadyRunner [] (build ⟨"ubuntu", .arm64, "base", [.tgz], none, none⟩
      none)).result = .ok ⟨"/output/base.tar.gz", none⟩ := by decide
  exact ⟨_, c, claim, dir, file, _, _, hjob, hc, hmounts, rfl, hurl, he, hok, hwritten _ he _ _ _ hok⟩

end ImageForge.Controller
