import ImageForge.Proofs.Job.Requirements
import ImageForge.Proofs.Worker.Confinement

/-! The directory inside a claim and the playbook inside the checkout. Nothing that is used of them
leads out of where it belongs. -/
namespace ImageForge

open Text

namespace Controller

variable {pvc : PvcOutput} {raw sub : String} {err : JobError}

/-- What becomes of the directory inside a claim, for each way in which one may be given. -/
inductive TakesSubPath (pvc : PvcOutput) : Except JobError (Option String) → Prop
  | absent (there : pvc.subPath = none) : TakesSubPath pvc (.ok none)
  | upward {raw : String} (there : pvc.subPath = some raw)
      (up : ['.', '.'] ∈ (trimmedPath raw).splitOn '/') :
      TakesSubPath pvc (.error (.invalidSubPath raw))
  | empty {raw : String} (there : pvc.subPath = some raw) (nothing : trimmedPath raw = []) :
      TakesSubPath pvc (.ok none)
  | inside {raw : String} (there : pvc.subPath = some raw) (something : trimmedPath raw ≠ [])
      (stays : ['.', '.'] ∉ (trimmedPath raw).splitOn '/') :
      TakesSubPath pvc (.ok (some (String.ofList (trimmedPath raw))))

theorem takesSubPath (pvc : PvcOutput) : TakesSubPath pvc (subPath pvc) := by
  cases h : pvc.subPath with
  | none =>
    rw [subPath, h]
    exact .absent h
  | some raw =>
    rw [subPath_of_some h]
    split
    next hup => exact .upward h hup
    next hstays =>
      split
      next hnil => exact .empty h (List.isEmpty_iff.mp hnil)
      next hne => exact .inside h (fun hnil => hne (List.isEmpty_iff.mpr hnil)) hstays

theorem subPath_eq_error_iff : subPath pvc = .error err ↔ ∃ raw, pvc.subPath = some raw ∧
    ['.', '.'] ∈ (trimmedPath raw).splitOn '/' ∧ err = .invalidSubPath raw := by
  have h := takesSubPath pvc
  generalize subPath pvc = result at h
  cases h with
  | absent there => simp [there]
  | upward there up => simp [there, up, eq_comm]
  | empty there nothing => simp [there, nothing]
  | inside there _ stays => simp [there, stays]

theorem subPath_eq_none_iff :
    subPath pvc = .ok none ↔ ∀ raw, pvc.subPath = some raw → trimmedPath raw = [] := by
  have h := takesSubPath pvc
  generalize subPath pvc = result at h
  cases h with
  | absent there => simp [there]
  | @upward raw there up =>
    have hne : trimmedPath raw ≠ [] := by
      intro hnil
      simp [hnil] at up
    simp [there, hne]
  | empty there nothing => simp [there, nothing]
  | inside there something _ => simp [there, something]

theorem subPath_of_stays (there : pvc.subPath = some raw) (something : trimmedPath raw ≠ [])
    (stays : ['.', '.'] ∉ (trimmedPath raw).splitOn '/') :
    subPath pvc = .ok (some (String.ofList (trimmedPath raw))) := by
  rw [subPath_of_some there]
  refine (if_neg stays).trans ?_
  rw [if_neg (by simpa using something)]

theorem trimmedPath_isInfix (raw : String) : trimmedPath raw <:+: raw.toList := by
  obtain ⟨unblanked, hblanks, hslashes⟩ := trimmedPath_eq_iff.mp (rfl : trimmedPath raw = _)
  exact hslashes.isInfix.trans hblanks.isInfix

theorem trimmedPath_getLast? (raw : String) : (trimmedPath raw).getLast? ≠ some '/' := by
  obtain ⟨unblanked, -, hslashes⟩ := trimmedPath_eq_iff.mp (rfl : trimmedPath raw = _)
  intro h
  cases hslashes.last '/' h

theorem confined_trimmedPath (stays : ['.', '.'] ∉ (trimmedPath raw).splitOn '/') :
    Confined (String.ofList (trimmedPath raw)) where
  relative := by
    obtain ⟨unblanked, -, hslashes⟩ := trimmedPath_eq_iff.mp (rfl : trimmedPath raw = _)
    rw [String.toList_ofList]
    intro h
    cases hslashes.first '/' h
  components := by
    rw [show ".." = String.ofList ['.', '.'] from rfl, mem_splitAt, String.toList_ofList]
    exact stays

end Controller

namespace Worker

variable {lookup get : String → Option String} {e : Environment} {p : Playbook}
  {runner : Runner} {authFile : Option String} {c : Command} {path rest : String}

/-- The ideal sequence runs a playbook when there is one, and then once. -/
theorem playbookRuns_ideal (e : Environment) (authFile : Option String) (names : ResourceNames) :
    (idealSequence e authFile names).filter (·.program = "ansible-playbook") =
      (e.playbook.map (Command.provision · names.root)).toList := by
  obtain ⟨image, arch, filename, formats, source, playbook⟩ := e
  unfold idealSequence preparation completion
  cases source <;> obtain _ | ⟨path, _ | extra⟩ := playbook <;> cases (artifacts _).diskImage <;> rfl

theorem getLast?_provision (p : Playbook) (root : String) :
    (Command.provision p root).args.getLast? = some (Command.playbookPath p) := by
  rw [Command.provision, List.getLast?_append]
  rfl

theorem playbookPath_of_issued (hp : e.playbook = some p)
    (hc : c ∈ (perform runner [] (build e authFile)).commands)
    (hprogram : c.program = "ansible-playbook") :
    c.args.getLast? = some (Command.playbookPath p) := by
  have hrun : c ∈ (idealSequence e authFile (resourceNames runner e authFile)).filter
      (·.program = "ansible-playbook") :=
    List.mem_filter.mpr ⟨mem_ideal_of_issued hc, by simpa using hprogram⟩
  rw [playbookRuns_ideal, hp, Option.map_some, Option.toList_some, List.mem_singleton] at hrun
  rw [hrun]
  exact getLast?_provision p _

theorem playbook_issued {written : Artifacts} (hp : e.playbook = some p)
    (hok : (perform runner [] (build e authFile)).result = .ok written) :
    ∃ c ∈ (perform runner [] (build e authFile)).commands, c.program = "ansible-playbook" := by
  rw [(build_ok hok).1]
  have hrun : Command.provision p (resourceNames runner e authFile).root ∈
      (idealSequence e authFile (resourceNames runner e authFile)).filter
        (·.program = "ansible-playbook") := by
    rw [playbookRuns_ideal, hp]
    exact List.mem_singleton_self _
  exact ⟨_, (List.mem_filter.mp hrun).1, rfl⟩

theorem Environment.readPlaybook_ok (h : readPlaybook get = .ok (some p)) :
    get playbookVar = some p.path ∧ leavesDirectory p.path = false := by
  cases hpath : get playbookVar with
  | none =>
    rw [readPlaybook, hpath] at h
    cases h
  | some path =>
    simp only [readPlaybook, hpath] at h
    split at h
    · cases h
    · split at h
      · cases h
      next hstays =>
        cases hextra : readExtraVars get with
        | error err =>
          rw [hextra] at h
          cases h
        | ok extra =>
          rw [hextra] at h
          cases h
          exact ⟨rfl, Bool.eq_false_iff.mpr hstays⟩

/-- Slashes that are cut off at the start of a path hide no component from the check. -/
theorem confined_dropStart (h : leavesDirectory path = false) :
    Confined (dropStart (· = '/') path) where
  relative := by
    rw [dropStart, String.toList_ofList]
    intro hhead
    have hnot := List.head?_dropWhile_not (· = '/') path.toList
    rw [hhead] at hnot
    cases hnot
  components := by
    intro hup
    have hleaves : leavesDirectory path = true :=
      decide_eq_true ((splitAt_dropStart_suffix '/' path).subset hup)
    rw [h] at hleaves
    cases hleaves

theorem resolveFrom_sourceDir (rest : String) :
    resolveFrom [] (sourceDir ++ "/" ++ rest) = resolveFrom ["source"] rest := by
  rw [resolveFrom, splitAt_append_sep rfl, List.foldl_append]
  rfl

/-- The directory inside a claim is refused exactly when a component of what is left of it between blanks
and slashes is `..`, and is none where nothing is left; else it is a part of what was given that never
leads out of the claim. Of the playbook, too, nothing leads out of the checkout, whatever slashes its path
begins with. -/
theorem input_paths_confined :
    (∀ pvc : PvcOutput,
      (∀ err, Controller.subPath pvc = .error err ↔ ∃ raw, pvc.subPath = some raw ∧
        ['.', '.'] ∈ (strip (· = '/') (strip isBlank raw.toList)).splitOn '/' ∧
          err = .invalidSubPath raw) ∧
      (Controller.subPath pvc = .ok none ↔ ∀ raw, pvc.subPath = some raw →
        strip (· = '/') (strip isBlank raw.toList) = []) ∧
      ∀ raw, pvc.subPath = some raw → strip (· = '/') (strip isBlank raw.toList) ≠ [] →
        ['.', '.'] ∉ (strip (· = '/') (strip isBlank raw.toList)).splitOn '/' →
          ∃ sub, Controller.subPath pvc = .ok (some sub) ∧ sub ≠ "" ∧
            sub.toList <:+: raw.toList ∧ sub.toList.getLast? ≠ some '/' ∧ Confined sub ∧
            ∀ dir, StaysBelow dir sub ∧ dir <+: resolveFrom dir sub) ∧
    ∀ lookup e p, Environment.read lookup = .ok e → e.playbook = some p →
      ∃ n path rest, settings lookup playbookVar = some path ∧
        path.toList = List.replicate n '/' ++ rest.toList ∧ Confined rest ∧
        StaysBelow ["source"] rest ∧ ["source"] <+: resolveFrom [] ("/source/" ++ rest) ∧
        (∀ runner authFile, ∀ c ∈ (perform runner [] (build e authFile)).commands,
          c.program = "ansible-playbook" → c.args.getLast? = some ("/source/" ++ rest)) ∧
        ∀ runner authFile written, (perform runner [] (build e authFile)).result = .ok written →
          ∃ c ∈ (perform runner [] (build e authFile)).commands,
            c.program = "ansible-playbook" := by
  refine ⟨fun pvc => ⟨fun err => Controller.subPath_eq_error_iff,
    Controller.subPath_eq_none_iff, ?_⟩, ?_⟩
  · intro raw there something stays
    have hconfined : Confined (String.ofList (Controller.trimmedPath raw)) :=
      Controller.confined_trimmedPath stays
    refine ⟨_, Controller.subPath_of_stays there something stays, ?_, ?_, ?_, hconfined, ?_⟩
    · exact fun he => something (String.ofList_eq_empty_iff.mp he)
    · rw [String.toList_ofList]
      exact Controller.trimmedPath_isInfix raw
    · rw [String.toList_ofList]
      exact Controller.trimmedPath_getLast? raw
    · exact fun dir => ⟨hconfined.staysBelow dir, (hconfined.staysBelow dir).resolveFrom⟩
  · intro lookup e p hread hp
    obtain ⟨-, -, -, hplaybook, -, -⟩ := Environment.read_ok hread
    rw [hp] at hplaybook
    obtain ⟨hpath, hstays⟩ := Environment.readPlaybook_ok hplaybook
    obtain ⟨n, hslashes⟩ := exists_slashes p.path
    have hconfined := confined_dropStart hstays
    have hbelow := hconfined.staysBelow ["source"]
    refine ⟨n, p.path, _, hpath, hslashes, hconfined, hbelow, ?_, ?_, ?_⟩
    · exact (resolveFrom_sourceDir _).symm ▸ hbelow.resolveFrom
    · exact fun runner authFile c => playbookPath_of_issued hp
    · exact fun runner authFile written => playbook_issued hp

/-- An order with a playbook whose path begins with slashes. -/
def slashedVariables (name : String) : Option String :=
  if name = baseImageVar then some "ubuntu"
  else if name = architectureVar then some "arm64"
  else if name = gitRepoVar then some "https://git.example.com/base.git"
  else if name = playbookVar then some " //hosts/site..yml"
  else none

/-- Two dots that are a part of a name lead nowhere, and slashes at the start lead to no root. -/
theorem slashed_inputs_confined :
    (∃ sub, Controller.subPath ⟨"artifacts", some " //nightly/a..b/ ", false⟩ = .ok (some sub) ∧
      sub = "nightly/a..b" ∧ ∀ dir, StaysBelow dir sub) ∧
    ∃ e, Environment.read slashedVariables = .ok e ∧ ∃ rest,
      ["source"] <+: resolveFrom [] ("/source/" ++ rest) ∧
      ∀ runner authFile, ∀ c ∈ (perform runner [] (build e authFile)).commands,
        c.program = "ansible-playbook" → c.args.getLast? = some ("/source/" ++ rest) := by
  obtain ⟨hsub, hplaybook⟩ := input_paths_confined
  constructor
  · obtain ⟨sub, htaken, -, -, -, -, hbelow⟩ :=
      (hsub ⟨"artifacts", some " //nightly/a..b/ ", false⟩).2.2 " //nightly/a..b/ " rfl
        (by decide) (by decide)
    have hname : Controller.subPath ⟨"artifacts", some " //nightly/a..b/ ", false⟩ =
        .ok (some "nightly/a..b") := by decide
    have heq : some sub = some "nightly/a..b" := Except.ok.inj (htaken.symm.trans hname)
    exact ⟨sub, htaken, Option.some.inj heq, fun dir => (hbelow dir).1⟩
  · have hread : Environment.read slashedVariables = .ok ⟨"ubuntu", .arm64, "rootfs", [.tgz],
        some ⟨"https://git.example.com/base.git", "main"⟩,
        some ⟨"//hosts/site..yml", none⟩⟩ := by decide +kernel
    obtain ⟨-, -, rest, -, -, -, -, hinside, hargument, -⟩ := hplaybook _ _ _ hread rfl
    exact ⟨_, hread, rest, hinside, hargument⟩

end Worker
end ImageForge
