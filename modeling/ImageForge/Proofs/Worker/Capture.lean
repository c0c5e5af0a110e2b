import ImageForge.Execution.Outcome
import ImageForge.Proofs.Worker.PrintedName

/-! A build takes one line from an output, so the blanks around the output do not matter to it. -/
namespace ImageForge

open Text

namespace Execution

/-- What a build would learn from a command whose output is told as it was printed. -/
def verbatimAnswer (c : Worker.Command) :
    Except Worker.StartFailure Outcome → Except Worker.BuildError String
  | .error reason => .error (.notStarted c.program reason)
  | .ok o =>
    if o.status = .exited 0 then .ok (Utf8.decodeLossy o.stdout)
    else .error (.commandFailed c.line o.status.text (outputText o.stderr))

theorem answer_eq (c : Worker.Command) (ended : Except Worker.StartFailure Outcome) :
    answer c ended = (verbatimAnswer c ended).map trim := by
  cases ended with
  | error reason => rfl
  | ok o =>
    by_cases hstatus : o.status = .exited 0 <;>
      simp [answer, verbatimAnswer, hstatus, Except.map, outputText]

end Execution

namespace Worker

variable {α β : Type} {output name : String} {runner other : Runner} {earlier : List Command}
  {c : Command}

/-- What a build hears of an output: where a resource is named the text without the blanks around it, and
else nothing. -/
def heard (c : Command) (output : String) : String := if c.capture then trim output else ""

/-- Runners are interchangeable when a build hears the same from both. -/
def Interchangeable (runner other : Runner) : Prop :=
  ∀ earlier c, (runner earlier c).map (heard c) = (other earlier c).map (heard c)

namespace Procedure

/-- A procedure that goes on with what is heard of an answer. -/
def Attentive : Procedure α → Prop
  | .done _ => True
  | .note _ rest => rest.Attentive
  | .run c next => (∀ a b : Except BuildError String, a.map (heard c) = b.map (heard c) →
      next a = next b) ∧ ∀ a, (next a).Attentive

namespace Attentive

variable {p : Procedure α} {k : Except BuildError α → Procedure β}

theorem andThen (hp : p.Attentive) (hk : ∀ r, (k r).Attentive) : (p.andThen k).Attentive := by
  induction p with
  | done r => exact hk r
  | note entry p ih => exact ih hp
  | run c next ih =>
    obtain ⟨hsame, hnext⟩ := hp
    constructor
    · intro a b hab
      exact congrArg (·.andThen k) (hsame a b hab)
    · intro a
      exact ih a (hnext a)

theorem bind {k : α → Procedure β} (hp : p.Attentive) (hk : ∀ a, (k a).Attentive) :
    (p >>= k).Attentive := by
  refine hp.andThen fun r => ?_
  cases r with
  | ok a => exact hk a
  | error e => trivial

theorem log_seq {q : Procedure β} {entry : LogEntry} (hq : q.Attentive) :
    (log entry >>= fun _ => q).Attentive := bind (p := log entry) trivial fun _ => hq

theorem execute (c : Command) : (Procedure.execute c).Attentive := by
  constructor
  · intro a b hab
    cases a <;> cases b <;> simp_all [Except.map]
  · intro a
    trivial

theorem capture (c : Command) : (Worker.capture c).Attentive := by
  have hname : ∀ a b : String, trim a = trim b → lastLine? a = lastLine? b := by
    intro a b hab
    rw [← lastLine?_trim a, hab, lastLine?_trim]
  constructor
  · intro a b hab
    cases a with
    | error e =>
      cases b with
      | error f =>
        cases hab
        rfl
      | ok output => cases hab
    | ok output =>
      cases b with
      | error f => cases hab
      | ok output' =>
        have htrim : trim output = trim output' := by simpa [Except.map, heard] using hab
        simp only [Procedure.andThen, hname _ _ htrim]
  · intro a
    cases a with
    | error e => trivial
    | ok output =>
      simp only [Procedure.andThen]
      split <;> trivial

theorem provision (env : Environment) (root : String) : (Worker.provision env root).Attentive := by
  unfold Worker.provision
  cases env.source with
  | none =>
    cases env.playbook with
    | none => trivial
    | some playbook => exact log_seq (execute _)
  | some source =>
    refine log_seq (bind (execute _) fun _ => ?_)
    cases env.playbook with
    | none => trivial
    | some playbook => exact log_seq (execute _)

theorem withDevices {body : Procedure Unit} (root : String) (hbody : body.Attentive) :
    (Worker.withDevices root body).Attentive := by
  refine bind (execute _) fun _ => hbody.andThen fun result => (execute _).andThen fun release => ?_
  cases result with
  | ok => trivial
  | error e => cases release <;> trivial

theorem writeArtifacts (env : Environment) (root : String) :
    (Worker.writeArtifacts env root).Attentive := by
  refine bind (execute _) fun _ => log_seq ?_
  split
  · exact bind (execute _) fun _ => log_seq trivial
  · trivial

theorem build (env : Environment) (authFile : Option String) :
    (Worker.build env authFile).Attentive := by
  refine log_seq (bind (capture _) fun container => bind (capture _) fun root => log_seq ?_)
  refine bind (withDevices root (provision env root)) fun _ => bind (execute _) fun _ => ?_
  refine bind (capture _) fun root => bind (writeArtifacts env root) fun artifacts => ?_
  exact bind (execute _) fun _ => bind (execute _) fun _ => log_seq trivial

end Attentive

end Procedure

/-- An attentive procedure goes the same way with interchangeable runners: before each of its steps both
have seen the same commands. -/
theorem perform_eq_of_interchangeable {p : Procedure α} (hp : p.Attentive)
    (h : Interchangeable runner other) (earlier : List Command) :
    perform runner earlier p = perform other earlier p := by
  induction p generalizing earlier with
  | done r => rfl
  | note entry p ih => simp only [perform, ih hp]
  | run c next ih =>
    obtain ⟨hsame, hnext⟩ := hp
    have hanswer : next (runner earlier c) = next (other earlier c) := hsame _ _ (h earlier c)
    simp only [perform, hanswer, ih _ (hnext _)]

theorem interchangeable_of_trimmed (h : ∀ earlier c, runner earlier c = (other earlier c).map trim) :
    Interchangeable runner other := by
  intro earlier c
  rw [h]
  cases other earlier c with
  | error e => rfl
  | ok output =>
    have hheard : heard c (trim output) = heard c output := by simp only [heard, trim_trim]
    simp only [Except.map, hheard]

/-- A command that names a resource is one step, and what follows hangs on the last line of its output. -/
theorem perform_capture (h : runner earlier { c with capture := true } = .ok output) :
    perform runner earlier (capture c) =
      ⟨[{ c with capture := true }], [Command.entry { c with capture := true }],
        match lastLine? output with
        | some name => .ok name
        | none => .error (.emptyOutput c.line)⟩ := by
  unfold capture
  simp only [bind, Procedure.bind, Procedure.command, Procedure.andThen, perform, h]
  cases lastLine? output <;> rfl

/-- A command that names a resource fails when it prints blanks alone, and else tells what stands in the
last line of the trimmed output; so a runner may trim the outputs or not, and every build goes the same
way. -/
theorem captured_name_told :
    (∀ (runner : Runner) (earlier : List Command) (c : Command) (output : String),
      runner earlier { c with capture := true } = .ok output →
        ((perform runner earlier (capture c)).result = .error (.emptyOutput c.line) ↔
            ∀ ch ∈ output.toList, isBlank ch) ∧
          ((∃ ch ∈ output.toList, ¬ isBlank ch) →
            ∃ name, Tells output name ∧ (perform runner earlier (capture c)).result = .ok name) ∧
          ∀ other : Runner, other earlier { c with capture := true } = .ok (trim output) →
            perform other earlier (capture c) = perform runner earlier (capture c)) ∧
      (∀ runner other, Interchangeable runner other → ∀ earlier env authFile,
        perform runner earlier (build env authFile) = perform other earlier (build env authFile)) ∧
      ∀ (system : List Command → Command → Except StartFailure Execution.Outcome) earlier env
        authFile,
        perform (fun earlier c => Execution.answer c (system earlier c)) earlier
            (build env authFile) =
          perform (fun earlier c => Execution.verbatimAnswer c (system earlier c)) earlier
            (build env authFile) := by
  have hbuild : ∀ runner other, Interchangeable runner other → ∀ earlier env authFile,
      perform runner earlier (build env authFile) = perform other earlier (build env authFile) :=
    fun runner other h earlier env authFile =>
      perform_eq_of_interchangeable (.build env authFile) h earlier
  refine ⟨?_, hbuild, ?_⟩
  · intro runner earlier c output houtput
    rw [perform_capture houtput]
    refine ⟨?_, ?_, ?_⟩
    · constructor
      · intro hempty
        by_contra hsolid
        simp [lastLine?_of_solid hsolid] at hempty
      · intro hblank
        simp only [lastLine?_of_blank hblank]
    · rintro ⟨ch, hch, hch'⟩
      have hsolid : ¬ ∀ c ∈ output.toList, isBlank c := fun hblank => hch' (hblank ch hch)
      exact ⟨toldName output, tells_toldName hsolid, by simp only [lastLine?_of_solid hsolid]⟩
    · intro other hother
      rw [perform_capture hother, lastLine?_trim]
  · intro system earlier env authFile
    apply hbuild
    apply interchangeable_of_trimmed
    intro earlier c
    exact Execution.answer_eq c _

/-- A runner whose commands talk before they print a name, with blanks of several kinds around it. -/
def chattyRunner : Runner := fun _ _ => .ok "Resolving\r\n\n\tweb-1 \u00a0\r\n \u2028\n"

/-- The name is read out of the talk, and a build goes the same way when the output comes trimmed. -/
theorem chatty_name_told :
    (∃ name, Tells "Resolving\r\n\n\tweb-1 \u00a0\r\n \u2028\n" name ∧ name = "web-1" ∧
      (perform chattyRunner [] (capture (.buildah "mount" "web"))).result = .ok name) ∧
      ∀ env, perform (fun _ _ => .ok "Resolving\r\n\n\tweb-1") [] (build env none) =
        perform chattyRunner [] (build env none) := by
  constructor
  · obtain ⟨-, htold, -⟩ := captured_name_told.1 chattyRunner [] (.buildah "mount" "web") _ rfl
    obtain ⟨name, htells, hresult⟩ := htold ⟨'w', by decide +kernel, by decide⟩
    have hname : name.toList = "web-1".toList := htells.last.trans (by decide +kernel)
    exact ⟨name, htells, String.toList_inj.mp hname, hresult⟩
  · intro env
    refine captured_name_told.2.1 _ _ (fun earlier c => ?_) [] env none
    cases hc : c.capture with
    | false => simp [chattyRunner, heard, hc, Except.map]
    | true =>
      have htrim : trim "Resolving\r\n\n\tweb-1" =
          trim "Resolving\r\n\n\tweb-1 \u00a0\r\n \u2028\n" := by decide +kernel
      simp only [chattyRunner, heard, hc, Except.map, if_true, htrim]

end Worker

end ImageForge
