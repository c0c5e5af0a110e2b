import ImageForge.Proofs.Worker.Order

/-! Which variables make an order: those that meet every requirement. Else the first one that is not met
is told. -/
namespace ImageForge

open Text

namespace ArtifactFormat

variable {item : String} {items : List String}

def IsName (item : String) : Prop := item = "tgz" ∨ item = "qcow2"

instance (item : String) : Decidable (IsName item) := inferInstanceAs (Decidable (_ ∨ _))

theorem isName_iff : IsName item ↔ ∃ f : ArtifactFormat, item = f.name := by
  constructor
  · rintro (rfl | rfl)
    · exact ⟨.tgz, rfl⟩
    · exact ⟨.qcow2, rfl⟩
  · rintro ⟨f, rfl⟩
    cases f
    · exact Or.inl rfl
    · exact Or.inr rfl

theorem parse_of_not_isName (h : ¬ IsName item) :
    parse item = .error (.unknownValue "output.formats" item) := by
  have hnone : all.find? (·.name = item) = none := by
    refine List.find?_eq_none.mpr fun f _ hf => ?_
    exact h (isName_iff.mpr ⟨f, (of_decide_eq_true hf).symm⟩)
  rw [parse, Choice.named, hnone]

theorem exists_formats (h : ∀ item ∈ items, IsName item) :
    ∃ fs : List ArtifactFormat, fs.map (·.name) = items := by
  induction items with
  | nil => exact ⟨[], rfl⟩
  | cons item items ih =>
    obtain ⟨hitem, hitems⟩ := List.forall_mem_cons.mp h
    obtain ⟨f, rfl⟩ := isName_iff.mp hitem
    obtain ⟨fs, rfl⟩ := ih hitems
    exact ⟨f :: fs, rfl⟩

end ArtifactFormat

namespace Worker

/-- The variable that an error blames. -/
def BuildError.culprit? : BuildError → Option String
  | .missingVariable name | .invalidVariable name _ => some name
  | .notStarted _ _ | .commandFailed _ _ _ | .emptyOutput _ => none

/-- What the worker requires of the variables, in the order in which it looks at them. -/
inductive Requirement
  | baseImage
  | architecture
  | formats
  | repository
  | confinedPlaybook
  | extraVars
  deriving DecidableEq, Repr

/-- The entries of a list that is separated by commas, trimmed, without the blank ones. -/
def entries (list : String) : List String :=
  (list.toList.splitOn ',').filterMap fun entry => unlessBlank (String.ofList entry)

def askedFormats (get : String → Option String) : List String :=
  ((get outputFormatsVar).map entries).getD []

namespace Requirement

def rank : Requirement → Nat
  | .baseImage => 0
  | .architecture => 1
  | .formats => 2
  | .repository => 3
  | .confinedPlaybook => 4
  | .extraVars => 5

/-- When variables meet a requirement. The last three concern those that name a playbook. -/
def Met (get : String → Option String) : Requirement → Prop
  | .baseImage => (get baseImageVar).isSome
  | .architecture => get architectureVar = some "amd64" ∨ get architectureVar = some "arm64"
  | .formats => ∀ item ∈ askedFormats get, ArtifactFormat.IsName item
  | .repository => (get playbookVar).isSome → (get gitRepoVar).isSome
  | .confinedPlaybook => ∀ path ∈ get playbookVar, ['.', '.'] ∉ path.toList.splitOn '/'
  | .extraVars => (get playbookVar).isSome → ∀ text ∈ get extraVarsVar, (Json.parse? text).isSome

instance (get : String → Option String) : (r : Requirement) → Decidable (r.Met get)
  | .baseImage => inferInstanceAs (Decidable (_ = true))
  | .architecture => inferInstanceAs (Decidable (_ ∨ _))
  | .formats => inferInstanceAs (Decidable (∀ item ∈ askedFormats get, ArtifactFormat.IsName item))
  | .repository => inferInstanceAs (Decidable (_ → _))
  | .confinedPlaybook => inferInstanceAs (Decidable (∀ path ∈ get playbookVar,
      ['.', '.'] ∉ path.toList.splitOn '/'))
  | .extraVars => inferInstanceAs (Decidable ((get playbookVar).isSome →
      ∀ text ∈ get extraVarsVar, (Json.parse? text).isSome))

def blamed : Requirement → String
  | .baseImage => baseImageVar
  | .architecture => architectureVar
  | .formats => outputFormatsVar
  | .repository | .confinedPlaybook => playbookVar
  | .extraVars => extraVarsVar

def error (get : String → Option String) : Requirement → BuildError
  | .baseImage => .missingVariable baseImageVar
  | .architecture =>
    match get architectureVar with
    | none => .missingVariable architectureVar
    | some text => .invalidVariable architectureVar (SpecError.unknownValue "arch" text).message
  | .formats => .invalidVariable outputFormatsVar
      (SpecError.unknownValue "output.formats"
        (((askedFormats get).find? (¬ ArtifactFormat.IsName ·)).getD "")).message
  | .repository => .invalidVariable playbookVar ("set without " ++ gitRepoVar)
  | .confinedPlaybook => .invalidVariable playbookVar
      (Text.quote ((get playbookVar).getD "") ++ " leaves the source checkout")
  | .extraVars => .invalidVariable extraVarsVar "not a document"

theorem culprit?_error (get : String → Option String) (r : Requirement) :
    (r.error get).culprit? = some r.blamed := by
  cases r with
  | architecture =>
    rw [error]
    split <;> rfl
  | _ => rfl

end Requirement

variable {get other lookup : String → Option String} {r : Requirement} {item list : String}

theorem entries_eq (list : String) :
    ((splitAt ',' list).map trim).filter (!·.isEmpty) = entries list := by
  rw [splitAt, pieces_eq_splitOn, List.map_map, entries]
  induction list.toList.splitOn ',' with
  | nil => rfl
  | cons entry rest ih =>
    cases hb : isBlankText (String.ofList entry) with
    | true =>
      have htrim : (trim (String.ofList entry)).isEmpty = true := hb
      simpa [unlessBlank, hb, htrim] using ih
    | false =>
      have htrim : (trim (String.ofList entry)).isEmpty = false := hb
      simpa [unlessBlank, hb, htrim] using ih

def readFormat (item : String) : Except BuildError ArtifactFormat :=
  match ArtifactFormat.parse item with
  | .ok f => .ok f
  | .error e => .error (.invalidVariable outputFormatsVar e.message)

theorem readFormat_name (f : ArtifactFormat) : readFormat f.name = .ok f := by
  rw [readFormat, ArtifactFormat.parse_name]

theorem readFormat_of_not_isName (h : ¬ ArtifactFormat.IsName item) :
    readFormat item = .error (.invalidVariable outputFormatsVar
      (SpecError.unknownValue "output.formats" item).message) := by
  rw [readFormat, ArtifactFormat.parse_of_not_isName h]

theorem parseFormats_eq (list : String) :
    parseFormats list = ((entries list).mapM readFormat).map fun formats =>
      match ArtifactFormat.distinct formats with
      | [] => [.tgz]
      | fs => fs := by
  simp only [parseFormats, entries_eq]
  change Except.bind ((entries list).mapM readFormat) _ = _
  cases (entries list).mapM readFormat <;> rfl

theorem leavesDirectory_iff {path : String} :
    leavesDirectory path = true ↔ ['.', '.'] ∈ path.toList.splitOn '/' := by
  rw [leavesDirectory, decide_eq_true_eq]
  exact mem_splitAt

namespace Environment

theorem readBaseImage_of_met (h : Requirement.baseImage.Met get) :
    ∃ image, readBaseImage get = .ok image := by
  obtain ⟨image, himage⟩ := Option.isSome_iff_exists.mp h
  exact ⟨image, by rw [readBaseImage, himage]⟩

theorem readBaseImage_of_unmet (h : ¬ Requirement.baseImage.Met get) :
    readBaseImage get = .error (Requirement.baseImage.error get) := by
  have hnone : get baseImageVar = none := Option.not_isSome_iff_eq_none.mp h
  rw [readBaseImage, hnone]
  rfl

theorem readArchitecture_of_met (h : Requirement.architecture.Met get) :
    ∃ arch, readArchitecture get = .ok arch := by
  obtain h | h := h
  · exact ⟨.amd64, by rw [readArchitecture, h]; rfl⟩
  · exact ⟨.arm64, by rw [readArchitecture, h]; rfl⟩

theorem readArchitecture_of_unmet (h : ¬ Requirement.architecture.Met get) :
    readArchitecture get = .error (Requirement.architecture.error get) := by
  rw [Requirement.Met, not_or] at h
  cases harch : get architectureVar with
  | none => rw [readArchitecture, harch, Requirement.error, harch]
  | some text =>
    have hnone : Architecture.all.find? (·.name = text) = none := by
      refine List.find?_eq_none.mpr fun a _ ha => ?_
      obtain rfl := of_decide_eq_true ha
      cases a
      · exact h.1 harch
      · exact h.2 harch
    have hparse : Architecture.parse text = .error (.unknownValue "arch" text) := by
      rw [Architecture.parse, Choice.named, hnone]
    simp only [readArchitecture, harch, hparse, Requirement.error]

theorem readFormats_of_met (h : Requirement.formats.Met get) :
    ∃ asked : List ArtifactFormat, asked.map (·.name) = askedFormats get ∧
      ∃ formats, readFormats get = .ok formats ∧ formats ≠ [] ∧
        FirstOccurrences (if asked = [] then [.tgz] else asked) formats := by
  obtain ⟨asked, hasked⟩ := ArtifactFormat.exists_formats h
  refine ⟨asked, hasked, ?_⟩
  by_cases hnone : asked = []
  · subst hnone
    refine ⟨[.tgz], ?_, by simp, ArtifactFormat.firstOccurrences_distinct [.tgz]⟩
    cases hlist : get outputFormatsVar with
    | none => rw [readFormats, hlist]
    | some list =>
      have hentries : entries list = [] := by simpa [askedFormats, hlist] using hasked.symm
      simp only [readFormats, hlist, parseFormats_eq, hentries]
      rfl
  · have hdistinct : ArtifactFormat.distinct asked ≠ [] := by
      obtain ⟨f, hf⟩ := List.exists_mem_of_ne_nil asked hnone
      exact List.ne_nil_of_mem (ArtifactFormat.mem_distinct.mpr hf)
    rw [if_neg hnone]
    refine ⟨_, ?_, hdistinct, ArtifactFormat.firstOccurrences_distinct asked⟩
    cases hlist : get outputFormatsVar with
    | none => simp [askedFormats, hlist, hnone] at hasked
    | some list =>
      have hentries : entries list = asked.map (·.name) := by
        simpa [askedFormats, hlist] using hasked.symm
      have hread : (asked.map (·.name)).mapM readFormat = .ok asked :=
        mapM_map_ok fun f _ => readFormat_name f
      simp only [readFormats, hlist, parseFormats_eq, hentries, hread, Except.map]

theorem readFormats_of_unmet (h : ¬ Requirement.formats.Met get) :
    readFormats get = .error (Requirement.formats.error get) := by
  cases hlist : get outputFormatsVar with
  | none => simp [Requirement.Met, askedFormats, hlist] at h
  | some list =>
    have hasked : askedFormats get = entries list := by simp [askedFormats, hlist]
    cases hbad : (entries list).find? (¬ ArtifactFormat.IsName ·) with
    | none =>
      refine absurd (fun item hitem => ?_) h
      simpa using List.find?_eq_none.mp hbad item (hasked ▸ hitem)
    | some bad =>
      obtain ⟨hname, before, after, hsplit, hbefore⟩ := List.find?_eq_some_iff_append.mp hbad
      have hread : ∀ item ∈ before, ∃ f, readFormat item = .ok f := by
        intro item hitem
        obtain ⟨f, rfl⟩ := ArtifactFormat.isName_iff.mp (by simpa using hbefore item hitem)
        exact ⟨f, readFormat_name f⟩
      have hfails := readFormat_of_not_isName (by simpa using hname : ¬ ArtifactFormat.IsName bad)
      have herror : (before ++ bad :: after).mapM readFormat = .error _ := mapM_error hread hfails
      rw [← hsplit] at herror
      simp only [readFormats, hlist, parseFormats_eq, herror, Requirement.error, hasked, hbad]
      rfl

theorem readPlaybook_of_unmet_repository (h : ¬ Requirement.repository.Met get) :
    readPlaybook get = .error (Requirement.repository.error get) := by
  rw [Requirement.Met, Classical.not_imp] at h
  obtain ⟨path, hpath⟩ := Option.isSome_iff_exists.mp h.1
  have hrepo : get gitRepoVar = none := Option.not_isSome_iff_eq_none.mp h.2
  simp [readPlaybook, hpath, hrepo, Requirement.error]

theorem readPlaybook_of_path {path : String} (hrepo : Requirement.repository.Met get)
    (hpath : get playbookVar = some path) :
    readPlaybook get = if leavesDirectory path then
        .error (.invalidVariable playbookVar (Text.quote path ++ " leaves the source checkout"))
      else (readExtraVars get).map fun extra => some ⟨path, extra⟩ := by
  have hsome : (get gitRepoVar).isSome := hrepo (hpath ▸ rfl)
  obtain ⟨repo, hrepo⟩ := Option.isSome_iff_exists.mp hsome
  simp [readPlaybook, hpath, hrepo]

theorem readPlaybook_of_unmet_confinedPlaybook (hrepo : Requirement.repository.Met get)
    (h : ¬ Requirement.confinedPlaybook.Met get) :
    readPlaybook get = .error (Requirement.confinedPlaybook.error get) := by
  obtain ⟨path, hpath, hleaves⟩ : ∃ path, get playbookVar = some path ∧
      ['.', '.'] ∈ path.toList.splitOn '/' := by
    simpa [Requirement.Met] using h
  rw [readPlaybook_of_path hrepo hpath, if_pos (leavesDirectory_iff.mpr hleaves)]
  simp [Requirement.error, hpath]

theorem readPlaybook_of_unmet_extraVars (hrepo : Requirement.repository.Met get)
    (hconfined : Requirement.confinedPlaybook.Met get) (h : ¬ Requirement.extraVars.Met get) :
    readPlaybook get = .error (Requirement.extraVars.error get) := by
  obtain ⟨hsome, text, htext, hparse⟩ : (get playbookVar).isSome ∧ ∃ text,
      get extraVarsVar = some text ∧ Json.parse? text = none := by
    simpa [Requirement.Met] using h
  obtain ⟨path, hpath⟩ := Option.isSome_iff_exists.mp hsome
  have hstays : ¬ leavesDirectory path = true := leavesDirectory_iff.not.mpr (hconfined path hpath)
  rw [readPlaybook_of_path hrepo hpath, if_neg hstays]
  simp [readExtraVars, htext, hparse, Except.map, Requirement.error]

theorem readPlaybook_of_met (hrepo : Requirement.repository.Met get)
    (hconfined : Requirement.confinedPlaybook.Met get) (hextra : Requirement.extraVars.Met get) :
    ∃ playbook, readPlaybook get = .ok playbook := by
  cases hpath : get playbookVar with
  | none => exact ⟨none, by rw [readPlaybook, hpath]⟩
  | some path =>
    have hstays : ¬ leavesDirectory path = true :=
      leavesDirectory_iff.not.mpr (hconfined path hpath)
    rw [readPlaybook_of_path hrepo hpath, if_neg hstays, readExtraVars]
    cases htext : get extraVarsVar with
    | none => exact ⟨_, rfl⟩
    | some text =>
      obtain ⟨v, hv⟩ := Option.isSome_iff_exists.mp (hextra (hpath ▸ rfl) text htext)
      exact ⟨some ⟨path, some text⟩, by simp only [hv]; rfl⟩

theorem read_of_playbook (hbase : Requirement.baseImage.Met (settings lookup))
    (harch : Requirement.architecture.Met (settings lookup))
    (hformats : Requirement.formats.Met (settings lookup)) :
    ∃ order : Option Playbook → Environment,
      read lookup = (readPlaybook (settings lookup)).map order := by
  obtain ⟨image, himage⟩ := readBaseImage_of_met hbase
  obtain ⟨arch, harch⟩ := readArchitecture_of_met harch
  obtain ⟨-, -, formats, hformats, -⟩ := readFormats_of_met hformats
  refine ⟨fun playbook => ⟨image, arch,
    (settings lookup outputFilenameVar).getD defaultOutputFilename, formats,
    readSource (settings lookup), playbook⟩, ?_⟩
  simp only [read, himage, harch, hformats, bind, Except.bind]
  cases readPlaybook (settings lookup) <;> rfl

/-- The first requirement that is not met is told. -/
theorem read_of_firstUnmet (h : FirstUnmet Requirement.rank (·.Met (settings lookup)) r) :
    read lookup = .error (r.error (settings lookup)) := by
  obtain ⟨hunmet, hbefore⟩ := h
  have hplaybook : Requirement.formats.rank < r.rank → ∃ order : Option Playbook → Environment,
      read lookup = (readPlaybook (settings lookup)).map order := by
    intro hr
    exact read_of_playbook (hbefore .baseImage (Nat.lt_trans (by decide) hr))
      (hbefore .architecture (Nat.lt_trans (by decide) hr)) (hbefore .formats hr)
  cases r with
  | baseImage => simp only [read, readBaseImage_of_unmet hunmet, bind, Except.bind]
  | architecture =>
    obtain ⟨image, himage⟩ := readBaseImage_of_met (hbefore .baseImage (by decide))
    simp only [read, himage, readArchitecture_of_unmet hunmet, bind, Except.bind]
  | formats =>
    obtain ⟨image, himage⟩ := readBaseImage_of_met (hbefore .baseImage (by decide))
    obtain ⟨arch, harch⟩ := readArchitecture_of_met (hbefore .architecture (by decide))
    simp only [read, himage, harch, readFormats_of_unmet hunmet, bind, Except.bind]
  | repository =>
    obtain ⟨order, horder⟩ := hplaybook (by decide)
    rw [horder, readPlaybook_of_unmet_repository hunmet]
    rfl
  | confinedPlaybook =>
    obtain ⟨order, horder⟩ := hplaybook (by decide)
    rw [horder, readPlaybook_of_unmet_confinedPlaybook (hbefore .repository (by decide)) hunmet]
    rfl
  | extraVars =>
    obtain ⟨order, horder⟩ := hplaybook (by decide)
    rw [horder, readPlaybook_of_unmet_extraVars (hbefore .repository (by decide))
      (hbefore .confinedPlaybook (by decide)) hunmet]
    rfl

theorem read_of_met (h : ∀ r : Requirement, r.Met (settings lookup)) : ∃ e, read lookup = .ok e := by
  obtain ⟨order, horder⟩ := read_of_playbook (h .baseImage) (h .architecture) (h .formats)
  obtain ⟨playbook, hplaybook⟩ :=
    readPlaybook_of_met (h .repository) (h .confinedPlaybook) (h .extraVars)
  exact ⟨order playbook, by rw [horder, hplaybook]; rfl⟩

/-- The requirements and what is told of them depend on six of the variables. -/
theorem met_congr
    (h : ∀ v ∈ orderVariables, v ≠ gitBranchVar → v ≠ outputFilenameVar → other v = get v)
    (r : Requirement) : (r.Met other ↔ r.Met get) ∧ r.error other = r.error get := by
  have hbase := h baseImageVar (by decide) (by decide) (by decide)
  have harch := h architectureVar (by decide) (by decide) (by decide)
  have hformats := h outputFormatsVar (by decide) (by decide) (by decide)
  have hrepo := h gitRepoVar (by decide) (by decide) (by decide)
  have hplaybook := h playbookVar (by decide) (by decide) (by decide)
  have hextra := h extraVarsVar (by decide) (by decide) (by decide)
  cases r <;>
    simp [Requirement.Met, Requirement.error, askedFormats, hbase, harch, hformats, hrepo,
      hplaybook, hextra]

theorem read_congr (h : ∀ v ∈ orderVariables, settings other v = settings lookup v) :
    read other = read lookup := by
  have hbase := h baseImageVar (by decide)
  have harch := h architectureVar (by decide)
  have hfilename := h outputFilenameVar (by decide)
  have hformats := h outputFormatsVar (by decide)
  have hrepo := h gitRepoVar (by decide)
  have hbranch := h gitBranchVar (by decide)
  have hplaybook := h playbookVar (by decide)
  have hextra := h extraVarsVar (by decide)
  simp only [read, readBaseImage, readArchitecture, readFormats, readSource, readPlaybook,
    readExtraVars, hbase, harch, hfilename, hformats, hrepo, hbranch, hplaybook, hextra]

/-- An order is read from the variables that meet every requirement and from no others, with the formats in
the order in which they are asked for; of what the others lack, the first is told. No other variable
matters, and the branch and the name of the output do not matter for whether the order is read. -/
theorem order_read_iff (lookup : String → Option String) :
    ((∃ e, read lookup = .ok e) ↔ ∀ r : Requirement, r.Met (given lookup)) ∧
      (∀ e, read lookup = .ok e → e.formats ≠ [] ∧ ∃ asked : List ArtifactFormat,
        asked.map (·.name) = askedFormats (given lookup) ∧
          FirstOccurrences (if asked = [] then [.tgz] else asked) e.formats) ∧
      (∀ err, read lookup = .error err ↔ ∃ r : Requirement,
        FirstUnmet Requirement.rank (·.Met (given lookup)) r ∧
          err = r.error (given lookup) ∧ err.culprit? = some r.blamed) ∧
      (∀ other, (∀ v ∈ orderVariables, given other v = given lookup v) →
        read other = read lookup) ∧
      ∀ other, (∀ v ∈ orderVariables, v ≠ gitBranchVar → v ≠ outputFilenameVar →
          given other v = given lookup v) →
        ∀ err, read other = .error err ↔ read lookup = .error err := by
  simp only [← settings_eq_given]
  have hread : ∀ lookup, ((∃ e, read lookup = .ok e) ↔
      ∀ r : Requirement, r.Met (settings lookup)) ∧
      ∀ err, read lookup = .error err ↔ ∃ r : Requirement,
        FirstUnmet Requirement.rank (·.Met (settings lookup)) r ∧ err = r.error (settings lookup) :=
    fun lookup => met_iff_and_error_iff read_of_met fun _ => read_of_firstUnmet
  refine ⟨(hread lookup).1, ?_, ?_, fun _ => read_congr, ?_⟩
  · intro e he
    obtain ⟨-, -, hformats, -⟩ := read_ok he
    obtain ⟨asked, hasked, formats, hf, hne, hfirst⟩ :=
      readFormats_of_met ((hread lookup).1.mp ⟨e, he⟩ .formats)
    cases hformats.symm.trans hf
    exact ⟨hne, asked, hasked, hfirst⟩
  · intro err
    rw [(hread lookup).2]
    constructor
    · rintro ⟨r, hr, rfl⟩
      exact ⟨r, hr, rfl, r.culprit?_error _⟩
    · rintro ⟨r, hr, herr, -⟩
      exact ⟨r, hr, herr⟩
  · intro other h err
    have hmet : (fun r : Requirement => r.Met (settings other)) =
        fun r => r.Met (settings lookup) := funext fun r => propext (met_congr h r).1
    have herror : (fun r : Requirement => r.error (settings other)) =
        fun r => r.error (settings lookup) := funext fun r => (met_congr h r).2
    rw [(hread other).2, (hread lookup).2, hmet]
    simp only [congrFun herror]

/-- Variables with two faults: a format that is not known, and a playbook out of a blank repository. -/
def faultyVariables (name : String) : Option String :=
  if name = baseImageVar then some "ubuntu"
  else if name = architectureVar then some " arm64 "
  else if name = outputFormatsVar then some "qcow2, ,vmdk,tgz"
  else if name = playbookVar then some "site.yml"
  else if name = gitRepoVar then some " "
  else none

/-- Of the two faults the format is told. -/
theorem unknown_format_told :
    FirstUnmet Requirement.rank (·.Met (given faultyVariables)) .formats ∧
      ¬ Requirement.repository.Met (given faultyVariables) ∧
      read faultyVariables = .error (.invalidVariable "OUTPUT_FORMATS"
        "output.formats: unsupported value \"vmdk\"") := by
  have hfirst : FirstUnmet Requirement.rank (·.Met (given faultyVariables)) .formats := by
    refine ⟨by decide +kernel, fun before hbefore => ?_⟩
    cases before with
    | baseImage | architecture => decide +kernel
    | formats | repository | confinedPlaybook | extraVars => exact absurd hbefore (by decide)
  refine ⟨hfirst, by decide +kernel, ?_⟩
  exact ((order_read_iff faultyVariables).2.2.1 _).mpr
    ⟨.formats, hfirst, by decide +kernel, rfl⟩

end Environment

end Worker

end ImageForge
