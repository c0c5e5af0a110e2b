import ImageForge.Proofs.Worker.PrintedName

/-! The commands of a build are the ideal sequence up to the first one that fails. The devices are
released behind a failed provisioning as well. -/
namespace ImageForge.Worker

namespace Command

/-- What the answer to a command says is wrong: its error, or that a command whose output names a
resource has printed blanks alone. -/
def failure? (c : Command) : Except BuildError String → Option BuildError
  | .error e => some e
  | .ok output =>
    if c.capture ∧ output.toList.all Text.isBlank then some (.emptyOutput c.line) else none

/-- The commands that run while the devices are bound. -/
def isProvisioning (c : Command) : Bool := c.program = "git" ∨ c.program = "ansible-playbook"

/-- Creates the container of a build; its name is printed. -/
def creation (env : Environment) (authFile : Option String) : Command where
  program := "buildah"
  args := ["from", "--arch", env.arch.name] ++
    (match authFile with
    | some path => ["--authfile", path]
    | none => []) ++ [env.baseImage]
  capture := true

def mounting (container : String) : Command := ⟨"buildah", ["mount", container], true⟩

end Command

/-- How far a list of commands comes: those that are issued, and the failure of the last of them, if
there is one. -/
structure Progress where
  issued : List Command
  failure : Option (Command × BuildError)

/-- Issues commands one after another until one fails. -/
def progress (runner : Runner) (earlier : List Command) : List Command → Progress
  | [] => ⟨[], none⟩
  | c :: cs =>
    match c.failure? (runner earlier c) with
    | some e => ⟨[c], some (c, e)⟩
    | none =>
      let rest := progress runner (earlier ++ [c]) cs
      ⟨c :: rest.issued, rest.failure⟩

/-- What is run behind a failure. -/
def Progress.released (release : Command → List Command) (p : Progress) : List Command :=
  (p.failure.map fun f => release f.1).getD []

def Progress.result {α : Type} (p : Progress) (value : α) : Except BuildError α :=
  match p.failure with
  | none => .ok value
  | some (_, e) => .error e

variable {α β : Type} {runner : Runner} {earlier cs cs' : List Command} {c : Command}
  {e : BuildError}

theorem progress_cons_of_failure (h : c.failure? (runner earlier c) = some e) :
    progress runner earlier (c :: cs) = ⟨[c], some (c, e)⟩ := by
  simp [progress, h]

theorem progress_cons_of_pass (h : c.failure? (runner earlier c) = none) :
    progress runner earlier (c :: cs) = ⟨c :: (progress runner (earlier ++ [c]) cs).issued,
      (progress runner (earlier ++ [c]) cs).failure⟩ := by
  simp [progress, h]

theorem progress_single (runner : Runner) (earlier : List Command) (c : Command) :
    progress runner earlier [c] =
      ⟨[c], (c.failure? (runner earlier c)).map fun e => (c, e)⟩ := by
  cases hc : c.failure? (runner earlier c) <;> simp [progress, hc]

theorem progress_issued (h : (progress runner earlier cs).failure = none) :
    (progress runner earlier cs).issued = cs := by
  induction cs generalizing earlier with
  | nil => rfl
  | cons c cs ih =>
    cases hc : c.failure? (runner earlier c) with
    | some e => simp [progress_cons_of_failure hc] at h
    | none =>
      rw [progress_cons_of_pass hc] at h ⊢
      exact congrArg (c :: ·) (ih h)

theorem issued_prefix_commands (runner : Runner) (earlier cs : List Command) :
    (progress runner earlier cs).issued <+: cs := by
  induction cs generalizing earlier with
  | nil => exact List.prefix_rfl
  | cons c cs ih =>
    cases hc : c.failure? (runner earlier c) with
    | some e =>
      rw [progress_cons_of_failure hc]
      exact List.prefix_append [c] cs
    | none =>
      rw [progress_cons_of_pass hc]
      exact (List.prefix_cons_inj c).mpr (ih _)

theorem progress_append (runner : Runner) (earlier cs cs' : List Command) :
    progress runner earlier (cs ++ cs') =
      match (progress runner earlier cs).failure with
      | none => ⟨cs ++ (progress runner (earlier ++ cs) cs').issued,
          (progress runner (earlier ++ cs) cs').failure⟩
      | some _ => progress runner earlier cs := by
  induction cs generalizing earlier with
  | nil => simp [progress]
  | cons c cs ih =>
    rw [List.cons_append]
    cases hc : c.failure? (runner earlier c) with
    | some e => simp [progress_cons_of_failure hc]
    | none =>
      rw [progress_cons_of_pass hc, progress_cons_of_pass hc, ih]
      cases hf : (progress runner (earlier ++ [c]) cs).failure with
      | none => simp
      | some f => simp [hf]

theorem failed_mem {f : Command × BuildError}
    (h : (progress runner earlier cs).failure = some f) : f.1 ∈ cs := by
  induction cs generalizing earlier with
  | nil => cases h
  | cons c cs ih =>
    cases hc : c.failure? (runner earlier c) with
    | some e =>
      rw [progress_cons_of_failure hc] at h
      cases h
      exact List.mem_cons_self
    | none =>
      rw [progress_cons_of_pass hc] at h
      exact List.mem_cons_of_mem c (ih h)

/-- What is run by a procedure and its continuation. -/
theorem perform_andThen (runner : Runner) (earlier : List Command) (p : Procedure α)
    (k : Except BuildError α → Procedure β) :
    (perform runner earlier (p.andThen k)).commands = (perform runner earlier p).commands ++
        (perform runner (earlier ++ (perform runner earlier p).commands)
          (k (perform runner earlier p).result)).commands ∧
      (perform runner earlier (p.andThen k)).result =
        (perform runner (earlier ++ (perform runner earlier p).commands)
          (k (perform runner earlier p).result)).result := by
  induction p generalizing earlier with
  | done r => simp [Procedure.andThen, perform]
  | note entry p ih => simpa [Procedure.andThen, perform] using ih earlier
  | run c next ih =>
    simpa [Procedure.andThen, perform] using ih (runner earlier c) (earlier ++ [c])

/-- A procedure issues commands in turn up to the first that fails, behind which comes a release, and
ends with a value unless one fails. -/
structure Follows (runner : Runner) (release : Command → List Command) (earlier : List Command)
    (p : Procedure α) (cs : List Command) (value : α) : Prop where
  commands : (perform runner earlier p).commands =
    (progress runner earlier cs).issued ++ (progress runner earlier cs).released release
  result : (perform runner earlier p).result = (progress runner earlier cs).result value

namespace Follows

variable {release inner : Command → List Command} {p : Procedure α} {a : α} {b : β}

theorem pure (runner : Runner) (release : Command → List Command) (earlier : List Command)
    (a : α) : Follows runner release earlier (Pure.pure a) [] a := ⟨rfl, rfl⟩

theorem log (runner : Runner) (release : Command → List Command) (earlier : List Command)
    (entry : LogEntry) : Follows runner release earlier (Procedure.log entry) [] () := ⟨rfl, rfl⟩

theorem single {next : Except BuildError String → Procedure α} (hr : release c = [])
    (hn : next (runner earlier c) = .done
      (match c.failure? (runner earlier c) with
      | none => .ok a
      | some e => .error e)) : Follows runner release earlier (.run c next) [c] a := by
  constructor
  all_goals
    cases hf : c.failure? (runner earlier c) <;>
      simp [perform, hn, hf, hr, progress_single, Progress.released, Progress.result]

theorem execute (hc : c.capture = false) (hr : release c = []) :
    Follows runner release earlier (Procedure.execute c) [c] () := by
  refine single hr ?_
  cases ha : runner earlier c with
  | error e => simp [Command.failure?, Except.map]
  | ok output => simp [Command.failure?, Except.map, hc]

/-- What follows a procedure knows how it ended; behind a failure it makes up for what the release of
the procedure lacks. -/
theorem andThen {k : Except BuildError α → Procedure β}
    (hp : Follows runner inner earlier p cs a)
    (hok : (progress runner earlier cs).failure = none →
      Follows runner release (earlier ++ cs) (k (.ok a)) cs' b)
    (herror : ∀ c e, (progress runner earlier cs).failure = some (c, e) → ∀ before,
      inner c ++ (perform runner before (k (.error e))).commands = release c ∧
        (perform runner before (k (.error e))).result = .error e) :
    Follows runner release earlier (p.andThen k) (cs ++ cs') b := by
  obtain ⟨hcommands, hresult⟩ := perform_andThen runner earlier p k
  rw [hp.commands, hp.result] at hcommands hresult
  cases hf : (progress runner earlier cs).failure with
  | none =>
    have hreleased : (progress runner earlier cs).released inner = [] := by
      simp [Progress.released, hf]
    have hvalue : (progress runner earlier cs).result a = .ok a := by simp [Progress.result, hf]
    rw [progress_issued hf, hreleased, hvalue, List.append_nil] at hcommands hresult
    constructor
    · rw [progress_append, hf, hcommands, (hok hf).commands, ← List.append_assoc]
      rfl
    · rw [progress_append, hf, hresult, (hok hf).result]
      rfl
  | some f =>
    have hreleased : (progress runner earlier cs).released inner = inner f.1 := by
      simp [Progress.released, hf]
    have hvalue : (progress runner earlier cs).result a = .error f.2 := by
      simp [Progress.result, hf]
    rw [hreleased, hvalue] at hcommands hresult
    obtain ⟨hrest, hend⟩ := herror f.1 f.2 hf
      (earlier ++ ((progress runner earlier cs).issued ++ inner f.1))
    constructor
    · rw [progress_append, hf, hcommands, List.append_assoc, hrest]
      simp [Progress.released, hf]
    · rw [progress_append, hf, hresult, hend]
      simp [Progress.result, hf]

theorem bind {k : α → Procedure β} (hp : Follows runner release earlier p cs a)
    (hk : (progress runner earlier cs).failure = none →
      Follows runner release (earlier ++ cs) (k a) cs' b) :
    Follows runner release earlier (p >>= k) (cs ++ cs') b :=
  hp.andThen hk fun _ _ _ _ => ⟨List.append_nil _, rfl⟩

theorem seq {p : Procedure Unit} {q : Procedure β}
    (hp : Follows runner release earlier p cs ())
    (hq : Follows runner release (earlier ++ cs) q cs' b) :
    Follows runner release earlier (p >>= fun _ => q) (cs ++ cs') b :=
  hp.bind fun _ => hq

theorem log_seq {q : Procedure β} {entry : LogEntry} (hq : Follows runner release earlier q cs b) :
    Follows runner release earlier (Procedure.log entry >>= fun _ => q) cs b := by
  have hearlier : Follows runner release (earlier ++ []) q cs b := by rwa [List.append_nil]
  exact (Follows.log _ _ _ _).seq hearlier

end Follows

/-- The name that a command prints, behind the commands before it. -/
def printedName (runner : Runner) (earlier : List Command) (c : Command) : String :=
  match runner earlier c with
  | .ok output => toldName output
  | .error _ => ""

theorem Follows.capture {release : Command → List Command}
    (hr : release { c with capture := true } = []) :
    Follows runner release earlier (capture c) [{ c with capture := true }]
      (printedName runner earlier { c with capture := true }) := by
  refine Follows.single hr ?_
  cases ha : runner earlier { c with capture := true } with
  | error e => rfl
  | ok output =>
    by_cases hall : output.toList.all Text.isBlank
    · have hblank := List.all_eq_true.mp hall
      simp only [Command.failure?, Procedure.andThen, lastLine?_of_blank hblank, if_pos hall, true_and]
      rfl
    · have hsolid : ¬ ∀ ch ∈ output.toList, Text.isBlank ch := mt List.all_eq_true.mpr hall
      simp only [Command.failure?, Procedure.andThen, lastLine?_of_solid hsolid, if_neg hall, true_and,
        printedName, ha]
      rfl

def provisioning (env : Environment) (root : String) : List Command :=
  (env.source.map Command.clone).toList ++ (env.playbook.map (Command.provision · root)).toList

/-- Commands between the bind of the devices and their release. -/
def bound (root : String) (cs : List Command) : List Command :=
  [.bindDevices root] ++ (cs ++ [.releaseDevices root])

/-- The devices of a root are released behind a failed provisioning. -/
def releaseOf (root : String) (c : Command) : List Command :=
  if c.isProvisioning then [⟨"umount", [root ++ "/dev"], false⟩] else []

variable {env : Environment} {root : String}

theorem isProvisioning_of_mem (h : c ∈ provisioning env root) : c.isProvisioning := by
  rcases List.mem_append.mp h with h | h
  · obtain ⟨source, -, rfl⟩ := Option.map_eq_some_iff.mp (Option.mem_toList.mp h)
    rfl
  · obtain ⟨playbook, -, rfl⟩ := Option.map_eq_some_iff.mp (Option.mem_toList.mp h)
    rfl

theorem follows_provision (runner : Runner) (earlier : List Command) (env : Environment)
    (root : String) :
    Follows runner (fun _ => []) earlier (provision env root) (provisioning env root) () := by
  obtain ⟨image, arch, filename, formats, source, playbook⟩ := env
  have hplaybook : ∀ earlier, Follows runner (fun _ => []) earlier
      (provision ⟨image, arch, filename, formats, none, playbook⟩ root)
      (playbook.map (Command.provision · root)).toList () := by
    intro earlier
    cases playbook with
    | none => exact .pure _ _ _ _
    | some playbook => exact .log_seq (.execute rfl rfl)
  cases source with
  | none => exact hplaybook earlier
  | some source => exact .log_seq (.seq (.execute rfl rfl) (hplaybook _))

/-- Around a body that provisions a root, the devices are bound and released; they are released
behind a failure of the body, whatever comes of that. -/
theorem follows_withDevices {body : Procedure Unit}
    (hbody : Follows runner (fun _ => []) (earlier ++ [.bindDevices root]) body cs ())
    (hcs : ∀ c ∈ cs, c.isProvisioning) :
    Follows runner (releaseOf root) earlier (withDevices root body) (bound root cs) () := by
  refine Follows.seq (.execute rfl rfl) (hbody.andThen ?_ ?_)
  · intro _
    refine Follows.single rfl ?_
    cases runner _ (Command.releaseDevices root) <;> rfl
  · intro c e hf before
    have hc : c.isProvisioning := hcs c (failed_mem hf)
    rw [releaseOf, if_pos hc]
    cases hr : runner before (.releaseDevices root) <;>
      simp [Procedure.execute, Procedure.andThen, Procedure.fail, perform, hr, Except.map] <;> rfl

def artifacts (env : Environment) : Artifacts where
  archive := "/output/" ++ env.outputFilename ++ ".tar.gz"
  diskImage :=
    if .qcow2 ∈ env.formats then some ("/output/" ++ env.outputFilename ++ ".qcow2") else none

def archiving (env : Environment) (root : String) : List Command :=
  .archive (artifacts env).archive root ::
    ((artifacts env).diskImage.map (Command.diskImage (artifacts env).archive)).toList

theorem follows_writeArtifacts (runner : Runner) (mounted : String) (earlier : List Command)
    (env : Environment) (root : String) :
    Follows runner (releaseOf mounted) earlier (writeArtifacts env root) (archiving env root)
      (artifacts env) := by
  unfold writeArtifacts archiving artifacts
  refine Follows.seq (.execute rfl rfl) (.log_seq ?_)
  by_cases h : .qcow2 ∈ env.formats
  · have hwants : env.wantsDiskImage = true := by simpa [Environment.wantsDiskImage] using h
    rw [if_pos hwants, if_pos h]
    exact .seq (.execute rfl rfl) (.log_seq (.pure _ _ _ _))
  · have hwants : ¬ env.wantsDiskImage = true := by simpa [Environment.wantsDiskImage] using h
    rw [if_neg hwants, if_neg h]
    exact .pure _ _ _ _

/-- The names that are printed in a build: the container, and the root of the container as it is
mounted first and again. -/
structure ResourceNames where
  container : String
  root : String
  remounted : String
  deriving DecidableEq

def preparation (env : Environment) (authFile : Option String) (container root : String) :
    List Command :=
  [.creation env authFile, .mounting container,
    ⟨"mount", ["--bind", "/dev", root ++ "/dev"], false⟩] ++
  (env.source.map fun source => ⟨"git",
    ["clone", "--depth", "1", "--branch", source.branch, source.url, "/source"], false⟩).toList ++
  (env.playbook.map fun playbook => ⟨"ansible-playbook",
    ["-c", "chroot", "-i", root ++ ","] ++
      (match playbook.extraVars with
      | some text => ["-e", text]
      | none => []) ++
      ["/source/" ++ Text.dropStart (· = '/') playbook.path], false⟩).toList ++
  [⟨"umount", [root ++ "/dev"], false⟩, ⟨"buildah", ["umount", container], false⟩]

def completion (env : Environment) (container root : String) : List Command :=
  [.mounting container, ⟨"tar", ["-czf", (artifacts env).archive, "-C", root, "."], false⟩] ++
  ((artifacts env).diskImage.map fun image => ⟨"virt-make-fs",
    ["--format=qcow2", "--type=ext4", (artifacts env).archive, image], false⟩).toList ++
  [⟨"buildah", ["umount", container], false⟩, ⟨"buildah", ["rm", container], false⟩]

/-- The commands of a build in which none fails. -/
def idealSequence (env : Environment) (authFile : Option String) (names : ResourceNames) :
    List Command :=
  preparation env authFile names.container names.root ++
    completion env names.container names.remounted

/-- The names that a runner prints in a build. -/
def resourceNames (runner : Runner) (env : Environment) (authFile : Option String) :
    ResourceNames :=
  let container := printedName runner [] (.creation env authFile)
  let root := printedName runner [.creation env authFile] (.mounting container)
  ⟨container, root,
    printedName runner (preparation env authFile container root) (.mounting container)⟩

theorem preparation_eq (env : Environment) (authFile : Option String) (container root : String) :
    preparation env authFile container root =
      [.creation env authFile, .mounting container] ++ bound root (provisioning env root) ++
        [.buildah "umount" container] := by
  obtain ⟨_, _, _, _, source, playbook⟩ := env
  cases source <;> obtain _ | ⟨_, _ | _⟩ := playbook <;> rfl

theorem completion_eq (env : Environment) (container root : String) :
    completion env container root = [.mounting container] ++ (archiving env root ++
      [.buildah "umount" container, .buildah "rm" container]) := by
  unfold completion archiving
  cases (artifacts env).diskImage <;> rfl

theorem remounted_eq (runner : Runner) (env : Environment) (authFile : Option String) :
    (resourceNames runner env authFile).remounted =
      printedName runner
        ([.creation env authFile, .mounting (resourceNames runner env authFile).container] ++
          bound (resourceNames runner env authFile).root
            (provisioning env (resourceNames runner env authFile).root) ++
          [.buildah "umount" (resourceNames runner env authFile).container])
        (.mounting (resourceNames runner env authFile).container) := by
  rw [← preparation_eq]
  rfl

theorem follows_build (runner : Runner) (env : Environment) (authFile : Option String) :
    Follows runner (releaseOf (resourceNames runner env authFile).root) []
      (build env authFile) (idealSequence env authFile (resourceNames runner env authFile))
      (artifacts env) := by
  have hparts : ∀ n, idealSequence env authFile n = [.creation env authFile] ++
      ([.mounting n.container] ++ (bound n.root (provisioning env n.root) ++
        ([.buildah "umount" n.container] ++ ([.mounting n.container] ++
          (archiving env n.remounted ++
            ([.buildah "umount" n.container] ++ ([.buildah "rm" n.container] ++ []))))))) := by
    simp [idealSequence, preparation_eq, completion_eq]
  rw [hparts, remounted_eq]
  unfold build
  refine .log_seq (.bind (.capture rfl) fun _ => .bind (.capture rfl) fun _ => .log_seq ?_)
  refine .seq (follows_withDevices (follows_provision _ _ env _) fun _ => isProvisioning_of_mem) ?_
  refine .seq (.execute rfl rfl) (.bind (.capture rfl) fun _ => ?_)
  refine .bind (follows_writeArtifacts _ _ _ env _) fun _ => ?_
  exact .seq (.execute rfl rfl) (.seq (.execute rfl rfl) (.log_seq (.pure _ _ _ _)))

theorem mem_ideal_of_issued {authFile : Option String}
    (hc : c ∈ (perform runner [] (build env authFile)).commands) :
    c ∈ idealSequence env authFile (resourceNames runner env authFile) := by
  rw [(follows_build runner env authFile).commands] at hc
  rcases List.mem_append.mp hc with hc | hc
  · exact (issued_prefix_commands _ _ _).subset hc
  · -- The release behind a failure is the one that also comes without it.
    unfold Progress.released at hc
    cases hf : (progress runner [] (idealSequence env authFile
        (resourceNames runner env authFile))).failure with
    | none => simp [hf] at hc
    | some f =>
      simp only [hf, Option.map_some, Option.getD_some, releaseOf] at hc
      split at hc
      · cases List.mem_singleton.mp hc
        simp [idealSequence, preparation]
      · cases hc

theorem build_commands_of_pass (env : Environment) (authFile : Option String)
    (h : ∀ earlier, ∀ c : Command, c.failure? (runner earlier c) = none) :
    (perform runner [] (build env authFile)).commands =
      idealSequence env authFile (resourceNames runner env authFile) := by
  have hpass : ∀ earlier cs, (progress runner earlier cs).failure = none := by
    intro earlier cs
    induction cs generalizing earlier with
    | nil => rfl
    | cons c cs ih =>
      rw [progress_cons_of_pass (h earlier c)]
      exact ih _
  rw [(follows_build runner env authFile).commands, progress_issued (hpass _ _)]
  simp [Progress.released, hpass]

theorem build_ok {authFile : Option String} {written : Artifacts}
    (h : (perform runner [] (build env authFile)).result = .ok written) :
    (perform runner [] (build env authFile)).commands =
        idealSequence env authFile (resourceNames runner env authFile) ∧
      written = artifacts env := by
  have hfollows := follows_build runner env authFile
  rw [hfollows.result] at h
  rw [hfollows.commands]
  cases hf : (progress runner [] (idealSequence env authFile
      (resourceNames runner env authFile))).failure with
  | some f => simp [Progress.result, hf] at h
  | none =>
    simp only [Progress.result, hf, Except.ok.injEq] at h
    refine ⟨?_, h.symm⟩
    rw [progress_issued hf]
    simp [Progress.released, hf]

def AllPass (runner : Runner) (earlier cs : List Command) : Prop :=
  ∀ before c after, cs = before ++ c :: after →
    c.failure? (runner (earlier ++ before) c) = none

theorem AllPass.cons (hc : c.failure? (runner earlier c) = none)
    (h : AllPass runner (earlier ++ [c]) cs) : AllPass runner earlier (c :: cs) := by
  intro before x after heq
  cases before with
  | nil =>
    obtain ⟨rfl, -⟩ := List.cons.inj heq
    rwa [List.append_nil]
  | cons y before =>
    obtain ⟨rfl, hrest⟩ := List.cons.inj heq
    simpa using h before x after hrest

theorem AllPass.unique {before before' after after' : List Command} {c' : Command} {e' : BuildError}
    (hpass : AllPass runner earlier before) (hpass' : AllPass runner earlier before')
    (hc : c.failure? (runner (earlier ++ before) c) = some e)
    (hc' : c'.failure? (runner (earlier ++ before') c') = some e')
    (h : before ++ c :: after = before' ++ c' :: after') : before = before' ∧ c = c' := by
  rcases List.append_eq_append_iff.mp h with ⟨more, rfl, hmore⟩ | ⟨more, rfl, hmore⟩
  · cases more with
    | nil =>
      cases hmore
      exact ⟨(List.append_nil before).symm, rfl⟩
    | cons d more =>
      cases hmore
      rw [hpass' before c more rfl] at hc
      cases hc
  · cases more with
    | nil =>
      cases hmore
      exact ⟨List.append_nil before', rfl⟩
    | cons d more =>
      cases hmore
      rw [hpass before' c' more rfl] at hc'
      cases hc'

theorem AllPass.nil (runner : Runner) (earlier : List Command) : AllPass runner earlier [] :=
  fun before c after h => by simp at h

/-- Either no command fails, or the last that is issued is the first that fails. -/
theorem progress_cases (runner : Runner) (earlier cs : List Command) :
    (progress runner earlier cs = ⟨cs, none⟩ ∧ AllPass runner earlier cs) ∨
      ∃ before c after e, cs = before ++ c :: after ∧ AllPass runner earlier before ∧
        c.failure? (runner (earlier ++ before) c) = some e ∧
        progress runner earlier cs = ⟨before ++ [c], some (c, e)⟩ := by
  induction cs generalizing earlier with
  | nil => exact Or.inl ⟨rfl, .nil runner earlier⟩
  | cons c cs ih =>
    cases hc : c.failure? (runner earlier c) with
    | some e =>
      refine Or.inr ⟨[], c, cs, e, rfl, .nil runner earlier, ?_, ?_⟩
      · simpa using hc
      · exact progress_cons_of_failure hc
    | none =>
      rw [progress_cons_of_pass hc]
      obtain ⟨hp, hpass⟩ | ⟨before, d, after, e, rfl, hpass, hfail, hp⟩ := ih (earlier ++ [c])
      · exact Or.inl ⟨by rw [hp], hpass.cons hc⟩
      · refine Or.inr ⟨c :: before, d, after, e, rfl, hpass.cons hc, ?_, by rw [hp]; rfl⟩
        simpa using hfail

/-- A build issues the ideal sequence and gives its files, unless a command fails; then it has issued
the commands up to the first that fails, releases the devices if that was one of the provisioning, and
ends with its error. -/
theorem build_issues_ideal_sequence (runner : Runner) (env : Environment)
    (authFile : Option String) :
    let names := resourceNames runner env authFile
    let ideal := idealSequence env authFile names
    let record := perform runner [] (build env authFile)
    (AllPass runner [] ideal ∧ record.commands = ideal ∧ record.result = .ok (artifacts env)) ∨
      ∃ before c after e, ideal = before ++ c :: after ∧ AllPass runner [] before ∧
        c.failure? (runner before c) = some e ∧
        record.commands = before ++ c :: releaseOf names.root c ∧ record.result = .error e := by
  intro names ideal record
  have hfollows : Follows runner (releaseOf names.root) [] (build env authFile) ideal
      (artifacts env) := follows_build runner env authFile
  obtain ⟨hp, hpass⟩ | ⟨before, c, after, e, hideal, hpass, hfail, hp⟩ :=
    progress_cases runner [] ideal
  · refine Or.inl ⟨hpass, ?_, ?_⟩
    · rw [hfollows.commands, hp]
      exact List.append_nil ideal
    · rw [hfollows.result, hp]
      rfl
  · refine Or.inr ⟨before, c, after, e, hideal, hpass, hfail, ?_, ?_⟩
    · rw [hfollows.commands, hp]
      simp [Progress.released]
    · rw [hfollows.result, hp]
      rfl

def siteOrder : Environment where
  baseImage := "ubuntu"
  arch := .arm64
  outputFilename := "web"
  formats := [.tgz]
  source := some ⟨"https://git.local/site", "main"⟩
  playbook := some ⟨"site.yml", none⟩

def offlineRunner : Runner := fun _ c =>
  if c.program = "git" then .error (.commandFailed c.line "exit status: 128" "no route")
  else .ok "Resolving\n/root\n"

/-- A runner that names the container and prints blanks for its root. -/
def silentMountRunner : Runner := fun _ c =>
  if c.args.head? = some "mount" then .ok " \n" else .ok "web-1\n"

/-- Behind a failed checkout the devices are released; a mount that prints blanks ends the build. -/
theorem failed_checkout_releases_devices :
    let checkout := perform offlineRunner [] (build siteOrder none)
    let silent := perform silentMountRunner [] (build siteOrder none)
    (checkout.commands = [.creation siteOrder none, .mounting "/root", .bindDevices "/root",
        .clone ⟨"https://git.local/site", "main"⟩, .releaseDevices "/root"] ∧
      checkout.result = .error (.commandFailed
        "git clone --depth 1 --branch main https://git.local/site /source" "exit status: 128"
        "no route")) ∧
    silent.commands = [.creation siteOrder none, .mounting "web-1"] ∧
      silent.result = .error (.emptyOutput "buildah mount web-1") := by
  have hends : ∀ (runner : Runner) (issued after : List Command) (c : Command) (e : BuildError),
      idealSequence siteOrder none (resourceNames runner siteOrder none) = issued ++ c :: after →
      AllPass runner [] issued → c.failure? (runner issued c) = some e →
      (perform runner [] (build siteOrder none)).commands =
          issued ++ c :: releaseOf (resourceNames runner siteOrder none).root c ∧
        (perform runner [] (build siteOrder none)).result = .error e := by
    intro runner issued after c e hideal hissued hc
    obtain ⟨hpass, -, -⟩ | ⟨before, c', rest, e', hsplit, hpass, hfail, hcommands, hresult⟩ :=
      build_issues_ideal_sequence runner siteOrder none
    · rw [hideal] at hpass
      cases (hpass issued c after rfl).symm.trans hc
    · obtain ⟨rfl, rfl⟩ := hissued.unique hpass hc hfail (hideal.symm.trans hsplit)
      cases hc.symm.trans hfail
      exact ⟨hcommands, hresult⟩
  constructor
  · have hnames : resourceNames offlineRunner siteOrder none = ⟨"/root", "/root", "/root"⟩ := by
      decide +kernel
    have hissued : AllPass offlineRunner []
        [.creation siteOrder none, .mounting "/root", .bindDevices "/root"] :=
      .cons (by decide +kernel) (.cons (by decide +kernel) (.cons (by decide +kernel) (.nil _ _)))
    have hend := hends offlineRunner _ _ (.clone ⟨"https://git.local/site", "main"⟩) _
      (by rw [hnames]; rfl) hissued rfl
    rwa [hnames] at hend
  · have hnames : resourceNames silentMountRunner siteOrder none = ⟨"web-1", "", ""⟩ := by
      decide +kernel
    have hissued : AllPass silentMountRunner [] [.creation siteOrder none] :=
      .cons (by decide +kernel) (.nil _ _)
    have hblank : (Command.mounting "web-1").failure? (.ok " \n") =
        some (.emptyOutput "buildah mount web-1") := by decide +kernel
    have hend := hends silentMountRunner _ _ (.mounting "web-1") _ (by rw [hnames]; rfl) hissued
      hblank
    rwa [hnames] at hend

end ImageForge.Worker
