import ImageForge.Proofs.Job.Requirements
import ImageForge.Proofs.Reconcile.Convergence
import ImageForge.Proofs.Reconcile.Failure

/-! Which section of a spec is told to be at fault where no builder job can be made of it. One that names
too many variants, or too few, is not. -/
namespace ImageForge.Controller

open Cluster ImageBuildStatus Conditions

namespace Requirement

/-- The condition of the section of the spec that a requirement is about. -/
def condition? : Requirement → Option ConditionType
  | .name | .ns => none
  | .baseImage => some .baseImageReady
  | .oneProvisioner | .supportedProvisioner => some .provisionerReady
  | .oneDestination | .supportedDestination | .confinedPath => some .outputReady

/-- Why a section is not ready that does not meet a requirement. -/
def reason : Requirement → String
  | .supportedProvisioner | .supportedDestination => reasonNotSupported
  | .name | .ns | .baseImage | .oneProvisioner | .oneDestination | .confinedPath =>
    reasonInvalidSpec

/-- Whether the requirement is on how many variants a section names. -/
def isChoice : Requirement → Bool
  | .oneProvisioner | .oneDestination => true
  | .name | .ns | .baseImage | .supportedProvisioner | .supportedDestination | .confinedPath =>
    false

variable {b : ImageBuild} {r : Requirement} {type : ConditionType}

/-- Where the name and the namespace are there, a section of the spec is at fault. -/
theorem exists_condition (hname : Met b .name) (hns : Met b .ns) (hr : r.FirstUnmet b) :
    ∃ type, r.condition? = some type := by
  cases r with
  | name => exact absurd hname hr.1
  | ns => exact absurd hns hr.1
  | baseImage | oneProvisioner | supportedProvisioner | oneDestination | supportedDestination
  | confinedPath => exact ⟨_, rfl⟩

/-- What is told of a requirement that is not met blames its section, unless it is on a choice. -/
theorem error_blames (b : ImageBuild) (r : Requirement) :
    (r.error b).affectedCondition = (if r.isChoice then none else r.condition?) ∧
      (if (r.error b).isUnsupported then reasonNotSupported else reasonInvalidSpec) = r.reason := by
  cases r with
  | name | ns | baseImage | oneProvisioner | confinedPath => exact ⟨rfl, rfl⟩
  | supportedProvisioner | oneDestination =>
    simp only [error]
    split <;> exact ⟨rfl, rfl⟩
  | supportedDestination =>
    simp only [error]
    split
    · exact ⟨rfl, rfl⟩
    · split <;> exact ⟨rfl, rfl⟩

theorem mem_reports_error (hr : ¬ r.isChoice) (htype : r.condition? = some type) :
    ⟨type, .false, r.reason, (r.error b).message⟩ ∈ (r.error b).reports := by
  obtain ⟨haffected, hreason⟩ := error_blames b r
  rw [if_neg hr, htype] at haffected
  simp [JobError.reports, haffected, hreason]

theorem mem_blamed_error {other : ConditionType} (htype : r.condition? = some type)
    (h : other ∈ (r.error b).blamed) :
    other = .builderJobReady ∨ ¬ r.isChoice ∧ other = type := by
  obtain h | h := List.mem_cons.mp h
  · exact Or.inl h
  · rw [(error_blames b r).1] at h
    split at h
    · cases h
    next hr =>
      rw [htype] at h
      exact Or.inr ⟨hr, List.mem_singleton.mp h⟩

end Requirement

variable {settings : BuilderSettings} {key : Key} {now : Instant} {s : Store} {b : ImageBuild}
  {r : Requirement} {e : JobError} {type : ConditionType} {old new : ImageBuildStatus}

/-- A status tells that a build has failed because its spec does not meet a requirement, and blames
the section that the requirement is about, unless that is on a choice. Of all else it tells the
same. -/
structure Blames (r : Requirement) (type : ConditionType) (message : String) (now : Instant)
    (old new : ImageBuildStatus) : Prop where
  phase : new.phase = .failed
  job : Tell new.conditions ⟨.builderJobReady, .false, reasonJobNotReady, message⟩
  blamed : ¬ r.isChoice → Tell new.conditions ⟨type, .false, r.reason, message⟩
  spared : r.isChoice → Completed now type old.conditions new.conditions
  others : ∀ other, other ≠ .builderJobReady → other ≠ type →
    Completed now other old.conditions new.conditions

theorem Finding.tell_unbuildable (key : Key) (now : Instant) {report : Report}
    (h : report ∈ e.reports) :
    Tell ((Finding.unbuildable e).status key b now).conditions report := by
  rw [Finding.status, jobNotConstructed_eq]
  exact tell_observeAll e.nodup_reports h

theorem Finding.unbuildable_blames (key : Key) (now : Instant)
    (unfinished : ¬ b.recorded.phase.isTerminal)
    (unbuildable : ownedBuilderJob b settings = .error (r.error b))
    (htype : r.condition? = some type) :
    Blames r type (r.error b).message now b.recorded
      ((Finding.unbuildable (r.error b)).status key b now) := by
  have hfails := Finding.fails_of_error (f := .unbuildable (r.error b)) key now
    ⟨unfinished, unbuildable⟩ rfl
  have hne : type ≠ .builderJobReady := by
    rintro rfl
    cases r <;> cases htype
  refine ⟨congrArg (·.phase) hfails.rest, tell_unbuildable key now List.mem_cons_self, ?_, ?_, ?_⟩
  · exact fun hr => tell_unbuildable key now (Requirement.mem_reports_error hr htype)
  · refine fun hr => hfails.others type fun hmem => ?_
    obtain heq | ⟨hnot, -⟩ := Requirement.mem_blamed_error htype hmem
    · exact hne heq
    · exact hnot hr
  · refine fun other hjob hother => hfails.others other fun hmem => ?_
    obtain heq | ⟨-, heq⟩ := Requirement.mem_blamed_error htype hmem
    · exact hjob heq
    · exact hother heq

/-- Where the spec of an image build allows no builder job, the invocation tells so, and blames the
section that the first requirement is about which is not met, unless that requirement is on a
choice. -/
theorem offending_section_blamed (now : Instant) (hq : s.Quiet)
    (hb : s.imageBuilds.get? key = some b) (alive : ¬ b.isBeingDeleted) (held : b.hasFinalizer)
    (vacant : s.jobs.get? (jobKey key) = none) (unfinished : ¬ b.recorded.phase.isTerminal)
    (hname : b.metadata.name.isSome) (hns : b.metadata.ns.isSome)
    (unbuildable : builderJob b settings = .error e) :
    ∃ r type u c, Requirement.FirstUnmet b r ∧ r.condition? = some type ∧
      Ends s (reconcile settings key now) (.error (.jobConstruction e)) u ∧
      u.imageBuilds.get? key = some c ∧
      Blames r type e.message now b.recorded c.recorded := by
  obtain ⟨r, hr, rfl⟩ := builderJob_error_iff.mp unbuildable
  obtain ⟨type, htype⟩ := Requirement.exists_condition hname hns hr
  have howned : ownedBuilderJob b settings = .error (r.error b) := by
    rw [ownedBuilderJob, unbuildable]
    rfl
  have hblames := Finding.unbuildable_blames key now unfinished howned htype
  have news : b.recorded ≠ (Finding.unbuildable (r.error b)).status key b now := by
    intro heq
    have hphase := (congrArg (·.phase) heq).trans hblames.phase
    exact unfinished (hphase ▸ rfl)
  obtain ⟨u, hpersist, htold, -, -⟩ := persist_ends _ hq hb news
  obtain ⟨c, hc, hcb⟩ := htold.stored
  refine ⟨r, type, u, c, hr, htype,
    ends_unbuildable hq hb alive held vacant unfinished howned hpersist, hc, ?_⟩
  rw [hcb.recorded]
  exact hblames

/-- A plain image build with two faults: its provisioner is not supported, and it names two
destinations. -/
def packerImageBuild : ImageBuild :=
  { plainImageBuild with spec := { plainImageBuild.spec with
    provisioner := some ⟨none, some ⟨"https://git.local/site", none, none, "web.pkr.hcl"⟩⟩
    output := { plainImageBuild.spec.output with
      registry := some ⟨"registry.local/web", "registry-key"⟩ } } }

/-- Of both faults the provisioner is blamed, and the output is not. -/
theorem packer_blamed :
    let key : Key := ⟨"images", "web"⟩
    let s := ({} : Store).addImageBuild packerImageBuild
    let e := JobError.unsupportedProvisioner "packer"
    ∃ u c, Ends s (reconcile {} key ⟨0, 0⟩) (.error (.jobConstruction e)) u ∧
      u.imageBuilds.get? key = some c ∧
      Tell c.recorded.conditions ⟨.provisionerReady, .false, reasonNotSupported, e.message⟩ ∧
      Completed ⟨0, 0⟩ .outputReady [] c.recorded.conditions := by
  intro key s e
  have unbuildable :
      builderJob (asAdded packerImageBuild ({} : Store).nextVersion) {} = .error e := rfl
  have hb : s.imageBuilds.get? key = some (asAdded packerImageBuild ({} : Store).nextVersion) := rfl
  obtain ⟨r, type, u, c, hr, htype, hends, hc, hblames⟩ :=
    offending_section_blamed ⟨0, 0⟩ ⟨rfl, rfl⟩ hb (by decide) (by decide) rfl (by decide) rfl rfl
      unbuildable
  have hrank : r.rank ≤ Requirement.rank .supportedProvisioner := by
    refine not_lt.mp fun hlater => ?_
    cases (hr.2 .supportedProvisioner hlater _ rfl).1
  refine ⟨u, c, hends, hc, ?_⟩
  cases r with
  | supportedProvisioner =>
    cases htype
    exact ⟨hblames.blamed Bool.false_ne_true, hblames.others _ (by decide) (by decide)⟩
  | name | ns => exact absurd rfl hr.1
  | baseImage => exact absurd ⟨'u', by decide, by decide⟩ hr.1
  | oneProvisioner => exact absurd (by decide) hr.1
  | oneDestination | supportedDestination | confinedPath => exact absurd hrank (by decide)

/-- Where two provisioners are named, the build fails and no section is blamed. -/
theorem conflicting_provisioners_spared :
    let key : Key := ⟨"images", "web"⟩
    let b := { plainImageBuild with spec := { plainImageBuild.spec with
      provisioner := some ⟨some ⟨"https://git.local/site", none, "main", "site.yml", none⟩,
        some ⟨"https://git.local/site", none, none, "web.pkr.hcl"⟩⟩ } }
    ∃ u c, Ends (({} : Store).addImageBuild b) (reconcile {} key ⟨0, 0⟩)
        (.error (.jobConstruction
          (.invalidSpec (.conflictingVariants "provisioner" ["ansible", "packer"])))) u ∧
      u.imageBuilds.get? key = some c ∧ c.recorded.phase = .failed ∧
      c.recorded.Says .builderJobReady .false ∧ ¬ c.recorded.Says .provisionerReady .false := by
  refine ⟨_, _, ⟨rfl, rfl⟩, rfl, rfl, ⟨_, rfl, rfl⟩, ?_⟩
  rintro ⟨c, hc, hvalue⟩
  cases hc
  cases hvalue

end ImageForge.Controller
