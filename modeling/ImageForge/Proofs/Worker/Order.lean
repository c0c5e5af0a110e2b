import ImageForge.Proofs.Json.Rendering
import ImageForge.Proofs.Outcome
import ImageForge.Worker.Environment

/-! What the worker makes of the variables of an order. -/
namespace ImageForge

open Text

/-- A list without repetitions, in the order in which its members first occur in another one. -/
structure FirstOccurrences {α : Type} [DecidableEq α] (whole firsts : List α) : Prop where
  mem : ∀ a, a ∈ firsts ↔ a ∈ whole
  nodup : firsts.Nodup
  order : firsts.Pairwise fun a b => whole.idxOf a < whole.idxOf b

namespace ArtifactFormat

variable {fs : List ArtifactFormat} {f : ArtifactFormat}

theorem distinct_append_singleton (fs : List ArtifactFormat) (f : ArtifactFormat) :
    distinct (fs ++ [f]) = if f ∈ distinct fs then distinct fs else distinct fs ++ [f] := by
  rw [distinct, List.foldl_append]
  rfl

theorem mem_distinct : f ∈ distinct fs ↔ f ∈ fs := by
  induction fs using List.reverseRecOn with
  | nil => simp [distinct]
  | append_singleton fs g ih =>
    rw [distinct_append_singleton]
    split
    next hg =>
      rw [List.mem_append, List.mem_singleton, ← ih]
      exact ⟨Or.inl, fun h => h.elim id fun he => he ▸ hg⟩
    next => rw [List.mem_append, List.mem_append, ih]

/-- What is added at the end comes behind all that was there, and moves none of it. -/
theorem pairwise_distinct (fs : List ArtifactFormat) :
    (distinct fs).Pairwise fun f g => fs.idxOf f < fs.idxOf g := by
  induction fs using List.reverseRecOn with
  | nil => exact List.Pairwise.nil
  | append_singleton fs g ih =>
    have hkept : ∀ f ∈ distinct fs, (fs ++ [g]).idxOf f = fs.idxOf f :=
      fun f hf => List.idxOf_append_of_mem (mem_distinct.mp hf)
    have hold : (distinct fs).Pairwise fun f h => (fs ++ [g]).idxOf f < (fs ++ [g]).idxOf h := by
      refine List.Pairwise.imp_of_mem ?_ ih
      intro a b ha hb hab
      rwa [hkept a ha, hkept b hb]
    rw [distinct_append_singleton]
    split
    · exact hold
    next hg =>
      have hnew : g ∉ fs := fun h => hg (mem_distinct.mpr h)
      refine List.pairwise_append.mpr ⟨hold, List.pairwise_singleton _ _, ?_⟩
      intro a ha b hb
      cases List.mem_singleton.mp hb
      rw [hkept a ha, List.idxOf_append_of_notMem hnew]
      exact Nat.lt_of_lt_of_le (List.idxOf_lt_length_iff.mpr (mem_distinct.mp ha))
        (Nat.le_add_right _ _)

theorem nodup_distinct (fs : List ArtifactFormat) : (distinct fs).Nodup := by
  refine (pairwise_distinct fs).imp ?_
  rintro a b hab rfl
  exact absurd hab (Nat.lt_irrefl _)

theorem firstOccurrences_distinct (fs : List ArtifactFormat) :
    FirstOccurrences fs (distinct fs) :=
  ⟨fun _ => mem_distinct, nodup_distinct fs, pairwise_distinct fs⟩

theorem distinct_of_nodup (h : fs.Nodup) : distinct fs = fs := by
  induction fs using List.reverseRecOn with
  | nil => rfl
  | append_singleton fs f ih =>
    have hfs := List.nodup_append.mp h
    have hf : f ∉ fs := fun hf => hfs.2.2 f hf f List.mem_cons_self rfl
    rw [distinct_append_singleton, ih hfs.1, if_neg hf]

@[simp]
theorem parse_name (f : ArtifactFormat) : parse f.name = .ok f := by
  cases f <;> rfl

theorem solid_name (f : ArtifactFormat) : Solid f.name.toList := by
  cases f <;> exact ⟨⟨_, rfl, rfl⟩, ⟨_, rfl, rfl⟩⟩

theorem comma_not_mem_name (f : ArtifactFormat) : ',' ∉ f.name.toList := by
  cases f <;> decide

end ArtifactFormat

namespace Architecture

@[simp]
theorem parse_name (a : Architecture) : parse a.name = .ok a := by
  cases a <;> rfl

theorem solid_name (a : Architecture) : Solid a.name.toList := by
  cases a <;> exact ⟨⟨_, rfl, rfl⟩, ⟨_, rfl, rfl⟩⟩

end Architecture

namespace Worker

variable {lookup : String → Option String} {key value : String} {fs : List ArtifactFormat}

/-- What is left of a value after trimming, unless it is blank. -/
def unlessBlank (value : String) : Option String :=
  if isBlankText value then none else some (trim value)

theorem unlessBlank_eq_some {text : String} :
    unlessBlank value = some text ↔ isBlankText value = false ∧ text = trim value := by
  cases hb : isBlankText value <;> simp [unlessBlank, hb, eq_comm]

theorem unlessBlank_getD (value default : String) :
    (unlessBlank value).getD default = if isBlankText value then default else trim value := by
  cases hb : isBlankText value <;> simp [unlessBlank, hb]

theorem unlessBlank_of_solid (h : Solid value.toList) : unlessBlank value = some value :=
  unlessBlank_eq_some.mpr ⟨isBlankText_of_solid h, (trim_of_solid h).symm⟩

theorem settings_eq (lookup : String → Option String) (key : String) :
    settings lookup key = (lookup key).bind unlessBlank := by
  cases h : lookup key with
  | none => simp [settings, h]
  | some value =>
    simp [settings, h, unlessBlank, isBlankText, Option.filter]

/-- The variables as the worker sees them: trimmed, and one that is blank is not set. -/
def given (lookup : String → Option String) (key : String) : Option String :=
  (lookup key).bind unlessBlank

theorem settings_eq_given (lookup : String → Option String) : settings lookup = given lookup :=
  funext (settings_eq lookup)

theorem parseFormats_intercalate (hne : fs ≠ []) (h : fs.Nodup) :
    parseFormats (String.intercalate "," (fs.map (·.name))) = .ok fs := by
  have hsplit : splitAt ',' (String.intercalate "," (fs.map (·.name))) = fs.map (·.name) := by
    refine splitAt_intercalate rfl (by simpa using hne) ?_
    simpa using fun f _ => f.comma_not_mem_name
  have htrim : (fs.map (·.name)).map trim = fs.map (·.name) := by
    simp [Function.comp_def, trim_of_solid (ArtifactFormat.solid_name _)]
  have hfilter : (fs.map (·.name)).filter (!·.isEmpty) = fs.map (·.name) := by
    refine List.filter_eq_self.mpr ?_
    simp only [List.forall_mem_map]
    intro f _
    cases f <;> rfl
  simp only [parseFormats, hsplit, htrim, hfilter, bind, Except.bind]
  rw [mapM_map_ok fun f _ => by rw [ArtifactFormat.parse_name]]
  simp only [ArtifactFormat.distinct_of_nodup h, pure, Except.pure]

namespace Environment

variable {e : Environment} {text repo branch path : String} {extra : Option Json}

theorem read_ok (h : read lookup = .ok e) :
    readBaseImage (settings lookup) = .ok e.baseImage ∧
      readArchitecture (settings lookup) = .ok e.arch ∧
      readFormats (settings lookup) = .ok e.formats ∧
      readPlaybook (settings lookup) = .ok e.playbook ∧
      e.outputFilename = (settings lookup outputFilenameVar).getD defaultOutputFilename ∧
      e.source = readSource (settings lookup) := by
  unfold read at h
  obtain ⟨image, hb, h⟩ := ok_of_bind h
  obtain ⟨arch, ha, h⟩ := ok_of_bind h
  obtain ⟨formats, hf, h⟩ := ok_of_bind h
  obtain ⟨playbook, hp, h⟩ := ok_of_bind h
  cases h
  exact ⟨hb, ha, hf, hp, rfl, rfl⟩

theorem baseImage_of_read {image : String} (hl : lookup baseImageVar = some text)
    (h : readBaseImage (settings lookup) = .ok image) : image = trim text := by
  rw [readBaseImage, settings_eq, hl, Option.bind_some] at h
  cases hb : unlessBlank text with
  | none => simp [hb] at h
  | some found =>
    simp only [hb, Except.ok.injEq] at h
    exact h.symm.trans (unlessBlank_eq_some.mp hb).2

theorem readBaseImage_ok (hl : lookup baseImageVar = some text) (hb : isBlankText text = false) :
    readBaseImage (settings lookup) = .ok (trim text) := by
  rw [readBaseImage, settings_eq, hl, Option.bind_some, unlessBlank_eq_some.mpr ⟨hb, rfl⟩]

theorem readArchitecture_ok {asked : Architecture}
    (hl : lookup architectureVar = some asked.name) :
    readArchitecture (settings lookup) = .ok asked := by
  rw [readArchitecture, settings_eq, hl, Option.bind_some, unlessBlank_of_solid asked.solid_name]
  simp only [Architecture.parse_name]

theorem arch_of_read {asked arch : Architecture} (hl : lookup architectureVar = some asked.name)
    (h : readArchitecture (settings lookup) = .ok arch) : arch = asked :=
  Except.ok.inj (h.symm.trans (readArchitecture_ok hl))

theorem readFormats_ok
    (hl : lookup outputFormatsVar = some (String.intercalate "," (fs.map (·.name))))
    (hfs : fs.Nodup) :
    readFormats (settings lookup) = .ok (if fs = [] then [.tgz] else fs) := by
  rw [readFormats, settings_eq, hl, Option.bind_some]
  by_cases hne : fs = []
  · subst hne
    rfl
  · have hsolid : Solid (String.intercalate "," (fs.map (·.name))).toList := by
      refine solid_intercalate (by simpa using hne) ?_
      simpa using fun f _ => f.solid_name
    rw [unlessBlank_of_solid hsolid, if_neg hne]
    exact parseFormats_intercalate hne hfs

theorem formats_of_read {found : List ArtifactFormat}
    (hl : lookup outputFormatsVar = some (String.intercalate "," (fs.map (·.name))))
    (hfs : fs.Nodup) (h : readFormats (settings lookup) = .ok found) :
    found = if fs = [] then [.tgz] else fs :=
  Except.ok.inj (h.symm.trans (readFormats_ok hl hfs))

theorem readSource_eq_some {r : SourceRepo} (hrepo : lookup gitRepoVar = some repo)
    (hbranch : lookup gitBranchVar = some branch) :
    readSource (settings lookup) = some r ↔ isBlankText repo = false ∧
      r = ⟨trim repo, if isBlankText branch then defaultGitBranch else trim branch⟩ := by
  rw [readSource, settings_eq, settings_eq, hrepo, hbranch, Option.bind_some, Option.bind_some,
    unlessBlank_getD]
  cases hb : isBlankText repo with
  | true => simp [unlessBlank, hb]
  | false =>
    simp only [unlessBlank, hb, Bool.false_eq_true, if_false, Option.map_some, Option.some.injEq,
      true_and]
    exact eq_comm

theorem settings_extraVars (hl : lookup extraVarsVar = extra.map (·.render)) :
    settings lookup extraVarsVar = extra.map (·.render) := by
  rw [settings_eq, hl]
  cases extra with
  | none => rfl
  | some v =>
    rw [Option.map_some, Option.bind_some]
    exact unlessBlank_of_solid v.solid_render

theorem extraVars_of_read {found : Option String}
    (hl : lookup extraVarsVar = extra.map (·.render))
    (h : readExtraVars (settings lookup) = .ok found) : found = extra.map (·.render) := by
  rw [readExtraVars, settings_extraVars hl] at h
  cases extra with
  | none =>
    cases h
    rfl
  | some v =>
    simp only [Option.map_some] at h
    split at h
    · cases h
      rfl
    · cases h

theorem readExtraVars_isOk_iff (hl : lookup extraVarsVar = extra.map (·.render)) :
    (∃ found, readExtraVars (settings lookup) = .ok found) ↔
      ∀ v, extra = some v → (Json.parse? v.render).isSome := by
  rw [readExtraVars, settings_extraVars hl]
  cases extra with
  | none => simp
  | some v => cases hv : Json.parse? v.render <;> simp [hv]

/-- A playbook that is not blank is read, with its extra variables, where there is a repository. -/
theorem playbook_of_read {found : Option Playbook} (hrepo : lookup gitRepoVar = some repo)
    (hpath : lookup playbookVar = some path) (hextra : lookup extraVarsVar = extra.map (·.render))
    (h : readPlaybook (settings lookup) = .ok found) (p : Playbook) :
    found = some p ↔ isBlankText repo = false ∧ isBlankText path = false ∧
      p = ⟨trim path, extra.map (·.render)⟩ := by
  rw [readPlaybook, settings_eq lookup playbookVar, settings_eq lookup gitRepoVar, hpath, hrepo,
    Option.bind_some, Option.bind_some] at h
  cases hp : isBlankText path with
  | true =>
    simp only [unlessBlank, hp, if_true] at h
    cases h
    simp
  | false =>
    cases hr : isBlankText repo with
    | true => simp [unlessBlank, hp, hr] at h
    | false =>
      simp only [unlessBlank, hp, hr, Bool.false_eq_true, if_false, Option.isNone_some] at h
      split at h
      · cases h
      · cases hx : readExtraVars (settings lookup) with
        | error e => simp [hx, Except.map] at h
        | ok vars =>
          simp only [hx, Except.map, Except.ok.injEq] at h
          rw [extraVars_of_read hextra hx] at h
          simp only [← h, Option.some.injEq, true_and]
          exact eq_comm

theorem readPlaybook_isOk_iff (hrepo : lookup gitRepoVar = some repo)
    (hpath : lookup playbookVar = some path)
    (hextra : lookup extraVarsVar = extra.map (·.render)) :
    (∃ found, readPlaybook (settings lookup) = .ok found) ↔
      isBlankText path = true ∨ isBlankText repo = false ∧ leavesDirectory (trim path) = false ∧
        ∀ v, extra = some v → (Json.parse? v.render).isSome := by
  rw [← readExtraVars_isOk_iff hextra, readPlaybook, settings_eq lookup playbookVar,
    settings_eq lookup gitRepoVar, hpath, hrepo, Option.bind_some, Option.bind_some]
  cases hp : isBlankText path with
  | true => simp [unlessBlank, hp]
  | false =>
    cases hr : isBlankText repo with
    | true => simp [unlessBlank, hp, hr]
    | false =>
      cases hd : leavesDirectory (trim path) with
      | true => simp [unlessBlank, hp, hr, hd]
      | false =>
        cases readExtraVars (settings lookup) <;> simp [unlessBlank, hp, hr, hd, Except.map]

/-- Where the other parts of an order are as the controller writes them, the playbook decides whether
the order is read. -/
theorem read_isOk_iff {asked : Architecture} (himage : lookup baseImageVar = some text)
    (hblank : isBlankText text = false) (harch : lookup architectureVar = some asked.name)
    (hformats : lookup outputFormatsVar = some (String.intercalate "," (fs.map (·.name))))
    (hfs : fs.Nodup) :
    (∃ e, read lookup = .ok e) ↔ ∃ found, readPlaybook (settings lookup) = .ok found := by
  constructor
  · rintro ⟨e, he⟩
    obtain ⟨-, -, -, hp, -, -⟩ := read_ok he
    exact ⟨e.playbook, hp⟩
  · rintro ⟨found, hp⟩
    simp only [read, readBaseImage_ok himage hblank, readArchitecture_ok harch,
      readFormats_ok hformats hfs, hp, bind, Except.bind, pure, Except.pure]
    exact ⟨_, rfl⟩

end Environment

end Worker

end ImageForge
