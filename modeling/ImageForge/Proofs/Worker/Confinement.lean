import ImageForge.Proofs.Text.Path
import ImageForge.Proofs.Worker.Location

/-! Where the files of a build are written. Their base name alone decides whether they stay in the
output directory. -/
namespace ImageForge.Worker

open Text

/-- The file that a command writes, if it makes an artifact. -/
def Command.outputFile? (c : Command) : Option String :=
  if c.program = "tar" then
    match c.args with
    | "-czf" :: file :: _ => some file
    | _ => none
  else if c.program = "virt-make-fs" then c.args.getLast?
  else none

/-- The path of something below the output directory that it never leaves. -/
def InOutput (path : String) : Prop :=
  ∃ rest, path = outputDir ++ "/" ++ rest ∧ rest.toList.head? ≠ some '/' ∧
    leavesDirectory rest = false

/-- With this base name the files stay in the output directory. The last component gets a suffix, so it
is never `..`. -/
def StaysInside (name : String) : Prop :=
  name.toList.head? ≠ some '/' ∧ ".." ∉ (splitAt '/' name).dropLast

instance (name : String) : Decidable (StaysInside name) := inferInstanceAs (Decidable (_ ∧ _))

variable {lookup : String → Option String} {e : Environment} {runner : Runner}
  {authFile : Option String} {c : Command} {name path suffix : String}

theorem InOutput.staysBelow (h : InOutput path) :
    ∃ rest, path = outputDir ++ "/" ++ rest ∧ StaysBelow ["output"] rest ∧
      resolveFrom [] path = resolveFrom ["output"] rest := by
  obtain ⟨rest, rfl, -, hleaves⟩ := h
  refine ⟨rest, rfl, staysBelow_of_components (by simpa [leavesDirectory] using hleaves) _, ?_⟩
  rw [resolveFrom, splitAt_append_sep rfl, List.foldl_append]
  rfl

theorem inOutput_artifactPath_iff (hslash : '/' ∉ suffix.toList) (hlong : 2 < suffix.length) :
    InOutput (artifactPath name suffix) ↔ StaysInside name := by
  have hrest : ∀ rest, artifactPath name suffix = outputDir ++ "/" ++ rest ↔
      rest = name ++ suffix := by
    intro rest
    rw [artifactPath, String.append_assoc, String.append_right_inj, eq_comm]
  have hhead : (name ++ suffix).toList.head? ≠ some '/' ↔ name.toList.head? ≠ some '/' := by
    cases hn : name.toList with
    | nil =>
      have hs : suffix.toList.head? ≠ some '/' := fun he => hslash (List.mem_of_head? he)
      simpa [hn] using hs
    | cons first rest => simp [hn]
  have hleaves : leavesDirectory (name ++ suffix) = false ↔
      ".." ∉ (splitAt '/' name).dropLast := by
    obtain ⟨last, -, hpieces⟩ := splitAt_append hslash name
    have hne : ".." ≠ last ++ suffix := by
      intro he
      have hlength := congrArg String.length he
      rw [String.length_append, show "..".length = 2 from rfl] at hlength
      omega
    simp [leavesDirectory, hpieces, hne]
  simp only [InOutput, StaysInside, hrest, exists_eq_left, hhead, hleaves]

theorem outputFiles_ideal (e : Environment) (authFile : Option String) (names : ResourceNames) :
    (idealSequence e authFile names).filterMap Command.outputFile? =
      (artifacts e).archive :: (artifacts e).diskImage.toList := by
  unfold idealSequence preparation completion
  cases e.source <;> cases e.playbook <;> cases (artifacts e).diskImage <;> rfl

/-- A build writes no file but its artifacts, however it ends. -/
theorem outputFile?_of_issued (hc : c ∈ (perform runner [] (build e authFile)).commands)
    (hf : c.outputFile? = some path) :
    path = (artifacts e).archive ∨ (artifacts e).diskImage = some path := by
  have hpath := List.mem_filterMap.mpr ⟨c, mem_ideal_of_issued hc, hf⟩
  rw [outputFiles_ideal, List.mem_cons, Option.mem_toList] at hpath
  exact hpath

theorem archive_issued (e : Environment) (authFile : Option String) :
    ∃ c ∈ (perform Controller.steadyRunner [] (build e authFile)).commands,
      c.outputFile? = some (artifacts e).archive := by
  have hsolid : ¬ "/root".toList.all Text.isBlank := by decide
  have hpass : ∀ earlier, ∀ c : Command,
      c.failure? (Controller.steadyRunner earlier c) = none := fun _ _ => if_neg fun h => hsolid h.2
  rw [build_commands_of_pass e authFile hpass]
  apply List.mem_filterMap.mp
  rw [outputFiles_ideal]
  exact List.mem_cons_self

/-- All files of a build stay in the output directory exactly where their base name lets them: nothing
but the name decides it, and nothing checks the name. -/
theorem files_in_output_iff (h : Environment.read lookup = .ok e) :
    (∀ runner authFile, ∀ c ∈ (perform runner [] (build e authFile)).commands,
        ∀ path, c.outputFile? = some path →
          InOutput path ∧ ["output"] <+: resolveFrom [] path) ↔
      StaysInside ((settings lookup outputFilenameVar).getD defaultOutputFilename) := by
  obtain ⟨-, -, -, -, hname, -⟩ := Environment.read_ok h
  rw [← hname]
  have harchive : InOutput (artifacts e).archive ↔ StaysInside e.outputFilename :=
    inOutput_artifactPath_iff (by decide) (by decide)
  constructor
  · intro hall
    obtain ⟨c, hc, hf⟩ := archive_issued e none
    exact harchive.mp (hall _ _ c hc _ hf).1
  · intro hinside runner authFile c hc path hf
    have hin : InOutput path := by
      rcases outputFile?_of_issued hc hf with rfl | himage
      · exact harchive.mpr hinside
      · simp only [artifacts, Option.ite_none_right_eq_some, Option.some.injEq] at himage
        rw [← himage.2]
        exact (inOutput_artifactPath_iff (by decide) (by decide)).mpr hinside
    obtain ⟨rest, -, hbelow, hresolved⟩ := hin.staysBelow
    exact ⟨hin, hresolved ▸ hbelow.resolveFrom⟩

/-- A build whose files have a plain name writes them where they belong. -/
theorem nightly_files_in_output :
    ∃ job c e, Controller.builderJob Controller.nightlyImageBuild {} = .ok job ∧
      job.containers = [c] ∧ Environment.read c.value? = .ok e ∧
      ∀ runner authFile, ∀ c ∈ (perform runner [] (build e authFile)).commands,
        ∀ path, c.outputFile? = some path →
          InOutput path ∧ ["output"] <+: resolveFrom [] path := by
  have hjob : Controller.builderJob Controller.nightlyImageBuild {} = .ok _ := rfl
  obtain ⟨c, -, hc, -, -⟩ := Controller.builderJob_carries hjob
  have hread : Environment.read c.value? = .ok ⟨"ubuntu", .arm64, "base", [.tgz], none, none⟩ := by
    cases hc
    rfl
  refine ⟨_, c, _, hjob, hc, hread, (files_in_output_iff hread).mpr ?_⟩
  cases hc
  decide

/-- A plain image build whose archive has the name of a place outside the output directory. -/
def climbingImageBuild : ImageBuild :=
  { Controller.plainImageBuild with spec := { Controller.plainImageBuild.spec with
    output := { Controller.plainImageBuild.spec.output with imageName := some "../etc/site" } } }

/-- The controller and the worker take the name over, and the archive is written outside. -/
theorem climbing_archive_outside :
    ∃ job container e, Controller.builderJob climbingImageBuild {} = .ok job ∧
      job.containers = [container] ∧ Environment.read container.value? = .ok e ∧
      ∃ c ∈ (perform Controller.steadyRunner [] (build e none)).commands,
        c.outputFile? = some "/output/../etc/site.tar.gz" ∧
        ¬ InOutput "/output/../etc/site.tar.gz" ∧
        resolveFrom [] "/output/../etc/site.tar.gz" = ["etc", "site.tar.gz"] := by
  have hjob : Controller.builderJob climbingImageBuild {} = .ok _ := rfl
  refine ⟨_, _, ⟨"ubuntu", .arm64, "../etc/site", [.tgz], none, none⟩, hjob, rfl, rfl, ?_⟩
  obtain ⟨c, hc, hf⟩ := archive_issued ⟨"ubuntu", .arm64, "../etc/site", [.tgz], none, none⟩ none
  refine ⟨c, hc, hf, ?_, by decide⟩
  rw [show "/output/../etc/site.tar.gz" = artifactPath "../etc/site" ".tar.gz" from by decide,
    inOutput_artifactPath_iff (by decide) (by decide)]
  decide

end ImageForge.Worker
