import ImageForge.Controller.Projection
import ImageForge.Proofs.Resource.Conditions
import ImageForge.Proofs.Worker.Location

/-! What becomes of a playbook in a builder job. The worker refuses some and passes over blank ones. -/
namespace ImageForge

/-- A playbook that the worker runs: it is named, lies inside a repository that is named as well, and its
extra variables can be read. -/
structure AnsibleSpec.Runnable (a : AnsibleSpec) : Prop where
  repo : Text.isBlankText a.repo = false
  playbook : Text.isBlankText a.playbook = false
  inside : Worker.leavesDirectory (Text.trim a.playbook) = false
  extraVars : ∀ v, a.extraVars = some v → (Json.parse? v.render).isSome

namespace ImageBuildStatus

open Controller

variable {s : ImageBuildStatus} {type t : ConditionType} {value : ConditionStatus}
  {reason message : String} {now : Instant} {b : ImageBuild} {a : AnsibleSpec}

@[simp]
theorem condition?_advance (s : ImageBuildStatus) (next : Phase) (t : ConditionType) :
    (s.advance next).condition? t = s.condition? t := rfl

theorem condition?_observe_of_ne (h : t ≠ type) :
    (s.observe type value reason message now).condition? t = s.condition? t :=
  Conditions.find?_observe_of_ne h

theorem condition?_publishObserved (h : t ≠ .publishReady) (spec : ImageBuildSpec) :
    (s.publishObserved spec now).condition? t = s.condition? t := by
  unfold publishObserved
  split <;> simp [condition?_observe_of_ne h]

theorem provisionerObserved_of_ansible {spec : ImageBuildSpec} (h : spec.ansible? = some a)
    (s : ImageBuildStatus) (now : Instant) :
    s.provisionerObserved spec now = s.observe .provisionerReady .true reasonProvisioned
      ((Provisioner.ansible a).kind ++ " provisioner completed") now := by
  obtain ⟨p, hp, ha⟩ := Option.bind_eq_some_iff.mp h
  split at ha
  next a' hv =>
    cases ha
    simp only [provisionerObserved, hp, Option.bind_some, hv]
  next => cases ha

theorem provisioned_of_succeeded (h : b.spec.ansible? = some a) (s : ImageBuildStatus)
    (jobName : String) (start completion : Option Instant) (now : Instant) :
    ∃ message time,
      (s.jobObserved b jobName (.succeeded start completion) now).condition? .provisionerReady =
        some ⟨.provisionerReady, .true, "Provisioned", message, time⟩ := by
  simp only [jobObserved, jobSucceeded, provisionerObserved_of_ansible h]
  rw [condition?_publishObserved (by decide), condition?_observe_of_ne (by decide),
    condition?_observe_of_ne (by decide)]
  exact ⟨_, Conditions.find?_observe _ _ _ _ _ _⟩

end ImageBuildStatus

namespace Worker

variable {e : Environment} {source : SourceRepo} {playbook : Playbook}

theorem provisioning_sublist (env : Environment) (authFile : Option String)
    (names : ResourceNames) :
    (provisioning env names.root).Sublist (idealSequence env authFile names) := by
  refine List.IsInfix.sublist ⟨[.creation env authFile, .mounting names.container,
    .bindDevices names.root], [.releaseDevices names.root, .buildah "umount" names.container] ++
      completion env names.container names.remounted, ?_⟩
  simp [idealSequence, preparation_eq, bound]

/-- An order with a playbook and its repository, so that a build that succeeds has cloned the one and
run the other. -/
def RunsPlaybook (e : Environment) : Prop :=
  ∃ source playbook, e.source = some source ∧ e.playbook = some playbook ∧
    ∀ runner authFile written, (perform runner [] (build e authFile)).result = .ok written →
      ∃ root, [Command.clone source, .provision playbook root].Sublist
        (perform runner [] (build e authFile)).commands

theorem runsPlaybook_of_some (hs : e.source = some source) (hp : e.playbook = some playbook) :
    RunsPlaybook e := by
  refine ⟨source, playbook, hs, hp, ?_⟩
  intro runner authFile written hok
  obtain ⟨hcommands, -⟩ := build_ok hok
  have hsublist := provisioning_sublist e authFile (resourceNames runner e authFile)
  rw [← hcommands] at hsublist
  exact ⟨_, by simpa [provisioning, hs, hp] using hsublist⟩

end Worker

namespace Controller

open Text Worker

variable {b : ImageBuild} {spec : ImageBuildSpec} {settings : BuilderSettings} {job : Job}
  {c : Container} {filename : String} {ansible : Option AnsibleSpec} {e : Environment}
  {a : AnsibleSpec}

/-- The worker refuses the playbooks that are named and that it cannot run, and no others. -/
theorem Carries.read_isOk_iff (h : Carries c spec filename ansible)
    (hb : isBlankText spec.baseImage = false) :
    (∃ e, Environment.read c.value? = .ok e) ↔
      ∀ a, ansible = some a → isBlankText a.playbook = true ∨ a.Runnable := by
  rw [Environment.read_isOk_iff h.baseImage hb h.arch h.formats (ArtifactFormat.nodup_distinct _)]
  cases ansible with
  | none => simp [Environment.readPlaybook, settings_eq, h.playbook]
  | some a =>
    rw [Environment.readPlaybook_isOk_iff h.repo h.playbook h.extraVars]
    constructor
    · rintro hread _ ⟨⟩
      by_cases hp : isBlankText a.playbook = true
      · exact Or.inl hp
      · obtain hblank | ⟨hrepo, hinside, hextra⟩ := hread
        · exact absurd hblank hp
        · exact Or.inr ⟨hrepo, Bool.eq_false_iff.mpr hp, hinside, hextra⟩
    · intro hall
      rcases hall a rfl with hp | hrun
      · exact Or.inl hp
      · exact Or.inr ⟨hrun.repo, hrun.inside, hrun.extraVars⟩

theorem Carries.runsPlaybook_iff (h : Carries c spec filename (some a))
    (hb : isBlankText spec.baseImage = false) :
    (∃ e, Environment.read c.value? = .ok e ∧ RunsPlaybook e) ↔ a.Runnable := by
  constructor
  · rintro ⟨e, he, _, playbook, -, hplaybook, -⟩
    obtain ⟨-, -, -, hread, -, -⟩ := Environment.read_ok he
    obtain ⟨_, ⟨⟩, -, hnamed, -⟩ := (h.playbook_iff hread playbook).mp hplaybook
    rcases (h.read_isOk_iff hb).mp ⟨e, he⟩ a rfl with hblank | hrun
    · exact absurd (hblank.symm.trans hnamed) (by decide)
    · exact hrun
  · intro hrun
    obtain ⟨e, he⟩ := (h.read_isOk_iff hb).mpr fun _ ha => Or.inr (Option.some.inj ha ▸ hrun)
    obtain ⟨-, -, -, hread, -, hsource⟩ := Environment.read_ok he
    have hs := hsource.trans ((h.source_iff _).mpr ⟨a, rfl, hrun.repo, rfl⟩)
    have hp := (h.playbook_iff hread _).mpr ⟨a, rfl, hrun.repo, hrun.playbook, rfl⟩
    exact ⟨e, he, runsPlaybook_of_some hs hp⟩

/-- The order in a builder job is read unless the spec names a playbook that the worker cannot run, and
runs the playbook of the spec if the worker can run it. But whatever the playbook is, the status says
that it was run once the job has succeeded. -/
theorem playbook_run_iff_runnable (hjob : builderJob b settings = .ok job) :
    ∃ c, job.containers = [c] ∧
      ((∃ e, Environment.read c.value? = .ok e) ↔
        ∀ a, b.spec.ansible? = some a → isBlankText a.playbook = true ∨ a.Runnable) ∧
      ∀ a, b.spec.ansible? = some a →
        ((∃ e, Environment.read c.value? = .ok e ∧ RunsPlaybook e) ↔ a.Runnable) ∧
        ∀ (s : ImageBuildStatus) jobName start completion now, ∃ message time,
          (s.jobObserved b jobName (.succeeded start completion) now).condition?
            .provisionerReady = some ⟨.provisionerReady, .true, "Provisioned", message, time⟩ := by
  obtain ⟨c, filename, hc, -, hcarries⟩ := builderJob_carries hjob
  obtain ⟨_, _, _, _, -, -, hblank, -, -, -⟩ := builderJob_ok hjob
  refine ⟨c, hc, hcarries.read_isOk_iff hblank, ?_⟩
  intro a ha
  have hcarried : Carries c b.spec filename (some a) := ha ▸ hcarries
  exact ⟨hcarried.runsPlaybook_iff hblank, ImageBuildStatus.provisioned_of_succeeded ha⟩

/-- The playbook of an image build that the worker can run is run. -/
theorem site_playbook_runs :
    ∃ job c, builderJob playbookImageBuild {} = .ok job ∧ job.containers = [c] ∧
      ∃ e, Environment.read c.value? = .ok e ∧ RunsPlaybook e := by
  have hjob : builderJob playbookImageBuild {} = .ok _ := rfl
  obtain ⟨c, hc, -, hruns⟩ := playbook_run_iff_runnable hjob
  refine ⟨_, c, hjob, hc, (hruns _ rfl).1.mpr ⟨by decide, by decide, by decide, ?_⟩⟩
  rintro v ⟨⟩
  rfl

def provisionedBy (playbook : String) : ImageBuild :=
  { plainImageBuild with spec := { plainImageBuild.spec with
    provisioner := some ⟨some ⟨"https://git.local/site", none, "main", playbook, none⟩, none⟩ } }

/-- A builder job is made for a playbook that the worker refuses, and for a blank one, without which the
build succeeds and is said to be provisioned. -/
theorem accepted_playbooks_not_run :
    (∃ job c, builderJob (provisionedBy "../site.yml") {} = .ok job ∧ job.containers = [c] ∧
      Environment.read c.value? = .error (.invalidVariable "PLAYBOOK"
        "\"../site.yml\" leaves the source checkout")) ∧
    ∃ job c e, builderJob (provisionedBy " ") {} = .ok job ∧ job.containers = [c] ∧
      Environment.read c.value? = .ok e ∧ e.playbook = none ∧
      (perform steadyRunner [] (build e none)).result = .ok ⟨"/output/web.tar.gz", none⟩ ∧
      (∀ command ∈ (perform steadyRunner [] (build e none)).commands,
        command.program ≠ "ansible-playbook") ∧
      ((({} : ImageBuildStatus).jobObserved (provisionedBy " ") "imgbldr-web"
        (.succeeded none none) ⟨0, 0⟩).condition? .provisionerReady).map (·.message) =
          some "ansible provisioner completed" := by
  refine ⟨⟨_, _, rfl, rfl, rfl⟩, _, _, ⟨"ubuntu", .arm64, "web", [.tgz],
    some ⟨"https://git.local/site", "main"⟩, none⟩, rfl, rfl, rfl, rfl, ?_, ?_, ?_⟩
  · decide
  · decide
  · rfl

end Controller

end ImageForge
