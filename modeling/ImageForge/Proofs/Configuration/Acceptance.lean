import ImageForge.Controller.Startup
import ImageForge.Proofs.Configuration.Numeral
import ImageForge.Proofs.Outcome

/-! Which variables make a configuration: those that meet every requirement. Else the first one that is
not met is told. -/
namespace ImageForge.Controller.Config

/-- The variables as the controller sees them: one that is blank is not set. -/
def given (lookup : String → Option String) (key : String) : Option String :=
  (lookup key).filter (!Text.isBlankText ·)

/-- A number among the variables: the most that it can be, and what it is where it is not set. -/
structure Quantity where
  name : String
  most : Nat
  default : Nat
  deriving DecidableEq, Repr

def timeoutSeconds : Quantity := ⟨"RECONCILE_TIMEOUT_SECS", 2 ^ 64 - 1, 60⟩
def debounceSeconds : Quantity := ⟨"RECONCILE_DEBOUNCE_SECS", 2 ^ 64 - 1, 1⟩
def runsAtATime : Quantity := ⟨"RECONCILE_CONCURRENCY", 65535, 4⟩

namespace Quantity

/-- The variables make a number of a quantity: the one that is written, else its default. -/
def Is (q : Quantity) (get : String → Option String) (n : Nat) : Prop :=
  (get q.name).elim (n = q.default) fun raw => Writes (Text.trim raw).toList n

/-- A quantity is set to a number that it can be, or not at all. -/
def Readable (q : Quantity) (get : String → Option String) : Prop :=
  ∀ raw ∈ get q.name, ∃ n ≤ q.most, Writes (Text.trim raw).toList n

def NotZero (q : Quantity) (get : String → Option String) : Prop :=
  ∀ raw ∈ get q.name, ¬ Writes (Text.trim raw).toList 0

instance (q : Quantity) (get : String → Option String) : Decidable (q.Readable get) :=
  inferInstanceAs (Decidable (∀ raw ∈ get q.name, ∃ n ≤ q.most, Writes (Text.trim raw).toList n))

instance (q : Quantity) (get : String → Option String) : Decidable (q.NotZero get) :=
  inferInstanceAs (Decidable (∀ raw ∈ get q.name, ¬ Writes (Text.trim raw).toList 0))

end Quantity

/-- What a configuration requires of the variables, in the order in which it is required. Whether a number
is zero is looked at when all three are read. -/
inductive Requirement
  | pullPolicy
  | timeoutReadable
  | debounceReadable
  | concurrencyReadable
  | concurrencyNotZero
  | timeoutNotZero
  | healthAddr
  deriving DecidableEq, Repr

namespace Requirement

def rank : Requirement → Nat
  | .pullPolicy => 0
  | .timeoutReadable => 1
  | .debounceReadable => 2
  | .concurrencyReadable => 3
  | .concurrencyNotZero => 4
  | .timeoutNotZero => 5
  | .healthAddr => 6

def Met (get : String → Option String) : Requirement → Prop
  | .pullPolicy => ∀ policy ∈ get "BUILDER_IMAGE_PULL_POLICY",
      policy = "Always" ∨ policy = "IfNotPresent" ∨ policy = "Never"
  | .timeoutReadable => timeoutSeconds.Readable get
  | .debounceReadable => debounceSeconds.Readable get
  | .concurrencyReadable => runsAtATime.Readable get
  | .concurrencyNotZero => runsAtATime.NotZero get
  | .timeoutNotZero => timeoutSeconds.NotZero get
  | .healthAddr => ∀ text ∈ get "HEALTH_ADDR", (Address.Socket.parse? text).isSome

instance (get : String → Option String) : (r : Requirement) → Decidable (r.Met get)
  | .pullPolicy => inferInstanceAs (Decidable (∀ policy ∈ get "BUILDER_IMAGE_PULL_POLICY",
      policy = "Always" ∨ policy = "IfNotPresent" ∨ policy = "Never"))
  | .timeoutReadable => inferInstanceAs (Decidable (timeoutSeconds.Readable get))
  | .debounceReadable => inferInstanceAs (Decidable (debounceSeconds.Readable get))
  | .concurrencyReadable => inferInstanceAs (Decidable (runsAtATime.Readable get))
  | .concurrencyNotZero => inferInstanceAs (Decidable (runsAtATime.NotZero get))
  | .timeoutNotZero => inferInstanceAs (Decidable (timeoutSeconds.NotZero get))
  | .healthAddr => inferInstanceAs (Decidable (∀ text ∈ get "HEALTH_ADDR",
      (Address.Socket.parse? text).isSome))

def blamed : Requirement → String
  | .pullPolicy => "BUILDER_IMAGE_PULL_POLICY"
  | .timeoutReadable | .timeoutNotZero => timeoutSeconds.name
  | .debounceReadable => debounceSeconds.name
  | .concurrencyReadable | .concurrencyNotZero => runsAtATime.name
  | .healthAddr => "HEALTH_ADDR"

/-- What is said of a quantity that cannot be read. -/
def unreadable (get : String → Option String) (q : Quantity) : String :=
  ": " ++ (numberFault q.most (Text.trim ((get q.name).getD "")).toList).message

def complaint (get : String → Option String) : Requirement → String
  | .pullPolicy => " must be one of Always, IfNotPresent, Never, got " ++
      Text.quote ((get "BUILDER_IMAGE_PULL_POLICY").getD "")
  | .timeoutReadable => unreadable get timeoutSeconds
  | .debounceReadable => unreadable get debounceSeconds
  | .concurrencyReadable => unreadable get runsAtATime
  | .concurrencyNotZero | .timeoutNotZero => " must be at least 1"
  | .healthAddr => ": invalid socket address syntax"

/-- What is told of variables that do not meet a requirement. -/
def problem (get : String → Option String) (r : Requirement) : Problem :=
  r.blamed ++ r.complaint get

def variableNames : List String :=
  ["BUILDER_IMAGE_PULL_POLICY", "RECONCILE_TIMEOUT_SECS", "RECONCILE_DEBOUNCE_SECS",
    "RECONCILE_CONCURRENCY", "HEALTH_ADDR"]

/-- A problem begins with the name of the variable that is blamed, and with that of no other. -/
theorem begins_problem_iff (get : String → Option String) (r : Requirement) :
    ∀ v ∈ variableNames, v.toList <+: (r.problem get).toList ↔ v = r.blamed := by
  have hknown : r.blamed ∈ variableNames := by
    cases r <;> decide
  have hapart : ∀ v ∈ variableNames, ∀ w ∈ variableNames, v.toList <+: w.toList → v = w := by
    decide
  intro v hv
  rw [problem, String.toList_append]
  constructor
  · intro hprefix
    rcases List.prefix_or_prefix_of_prefix hprefix (List.prefix_append _ _) with h | h
    · exact hapart v hv _ hknown h
    · exact (hapart _ hknown v hv h).symm
  · rintro rfl
    exact List.prefix_append _ _

end Requirement

/-- The variables of a configuration that is accepted. -/
structure Acceptable (get : String → Option String) : Prop where
  pullPolicy : ∀ policy, get "BUILDER_IMAGE_PULL_POLICY" = some policy →
    policy = "Always" ∨ policy = "IfNotPresent" ∨ policy = "Never"
  timeout : ∀ raw, get "RECONCILE_TIMEOUT_SECS" = some raw →
    ∃ n, Writes (Text.trim raw).toList n ∧ 1 ≤ n ∧ n < 2 ^ 64
  debounce : ∀ raw, get "RECONCILE_DEBOUNCE_SECS" = some raw →
    ∃ n, Writes (Text.trim raw).toList n ∧ n < 2 ^ 64
  concurrency : ∀ raw, get "RECONCILE_CONCURRENCY" = some raw →
    ∃ n, Writes (Text.trim raw).toList n ∧ 1 ≤ n ∧ n ≤ 65535
  healthAddr : ∀ text, get "HEALTH_ADDR" = some text → (Address.Socket.parse? text).isSome

/-- The configuration that variables make: what is set, else the defaults. -/
structure Carries (get : String → Option String) (c : Config) : Prop where
  image : c.builder.image =
    (get "BUILDER_IMAGE").getD "ghcr.io/zarcen/bib-operator/builder:0.1.1"
  pullPolicy : c.builder.imagePullPolicy = (get "BUILDER_IMAGE_PULL_POLICY").getD "IfNotPresent"
  watchNamespace : c.watchNamespace = get "WATCH_NAMESPACE"
  timeout : timeoutSeconds.Is get c.reconcileTimeout
  debounce : debounceSeconds.Is get c.debounce
  concurrency : runsAtATime.Is get c.concurrency
  healthAddr : some c.healthAddr =
    (get "HEALTH_ADDR").elim (some (.v4 [0, 0, 0, 0] 8081)) Address.Socket.parse?
  backoffMin : c.backoffMin = 5
  backoffMax : c.backoffMax = 300

variable {get lookup : String → Option String} {q : Quantity} {c d : Config} {n m : Nat}
  {r : Requirement}

theorem Quantity.is_of_none (h : get q.name = none) : q.Is get n ↔ n = q.default := by
  rw [Quantity.Is, h, Option.elim_none]

theorem Quantity.is_of_some {raw : String} (h : get q.name = some raw) :
    q.Is get n ↔ Writes (Text.trim raw).toList n := by
  rw [Quantity.Is, h, Option.elim_some]

theorem Quantity.Is.unique (hn : q.Is get n) (hm : q.Is get m) : n = m := by
  cases hget : get q.name with
  | none =>
    rw [is_of_none hget] at hn hm
    exact hn.trans hm.symm
  | some raw =>
    rw [is_of_some hget] at hn hm
    exact hn.unique hm

theorem Carries.unique (hc : Carries get c) (hd : Carries get d) : c = d := by
  obtain ⟨⟨_, _⟩, _, _, _, _, _, _, _⟩ := c
  obtain ⟨⟨_, _⟩, _, _, _, _, _, _, _⟩ := d
  obtain ⟨rfl, rfl, rfl, htimeout, hdebounce, hconcurrency, haddr, rfl, rfl⟩ := hc
  obtain ⟨himage, hpolicy, hns, htimeout', hdebounce', hconcurrency', haddr', hmin, hmax⟩ := hd
  cases himage
  cases hpolicy
  cases hns
  cases htimeout.unique htimeout'
  cases hdebounce.unique hdebounce'
  cases hconcurrency.unique hconcurrency'
  cases haddr.trans haddr'.symm
  cases hmin
  cases hmax
  rfl

theorem Quantity.positive_iff : q.Readable get ∧ q.NotZero get ↔
    ∀ raw ∈ get q.name, ∃ n, Writes (Text.trim raw).toList n ∧ 1 ≤ n ∧ n ≤ q.most := by
  constructor
  · rintro ⟨hreadable, hnotZero⟩ raw hraw
    obtain ⟨n, hle, hn⟩ := hreadable raw hraw
    have hne : n ≠ 0 := by
      rintro rfl
      exact hnotZero raw hraw hn
    exact ⟨n, hn, by omega, hle⟩
  · intro h
    constructor
    · intro raw hraw
      obtain ⟨n, hn, -, hle⟩ := h raw hraw
      exact ⟨n, hle, hn⟩
    · intro raw hraw hzero
      obtain ⟨n, hn, hpos, -⟩ := h raw hraw
      have hn0 : n = 0 := hn.unique hzero
      omega

theorem acceptable_iff : Acceptable get ↔ ∀ r : Requirement, r.Met get := by
  have hbound : ∀ n : Nat, n < 2 ^ 64 ↔ n ≤ 2 ^ 64 - 1 := by omega
  have htimeout : timeoutSeconds.Readable get ∧ timeoutSeconds.NotZero get ↔ _ :=
    Quantity.positive_iff
  have hconcurrency : runsAtATime.Readable get ∧ runsAtATime.NotZero get ↔ _ :=
    Quantity.positive_iff
  constructor
  · rintro ⟨hpolicy, htime, hdebounce, hruns, haddr⟩ r
    simp only [hbound] at htime hdebounce
    obtain ⟨htimeReadable, htimeNotZero⟩ := htimeout.mpr htime
    obtain ⟨hrunsReadable, hrunsNotZero⟩ := hconcurrency.mpr hruns
    cases r with
    | pullPolicy => exact hpolicy
    | timeoutReadable => exact htimeReadable
    | debounceReadable =>
      intro raw hraw
      obtain ⟨n, hn, hle⟩ := hdebounce raw hraw
      exact ⟨n, hle, hn⟩
    | concurrencyReadable => exact hrunsReadable
    | concurrencyNotZero => exact hrunsNotZero
    | timeoutNotZero => exact htimeNotZero
    | healthAddr => exact haddr
  · intro h
    constructor
    · exact h .pullPolicy
    · simp only [hbound]
      exact htimeout.mp ⟨h .timeoutReadable, h .timeoutNotZero⟩
    · intro raw hraw
      obtain ⟨n, hle, hn⟩ := h .debounceReadable raw hraw
      exact ⟨n, hn, (hbound n).mpr hle⟩
    · exact hconcurrency.mp ⟨h .concurrencyReadable, h .concurrencyNotZero⟩
    · exact h .healthAddr

theorem readPullPolicy_of_met (h : Requirement.pullPolicy.Met get) :
    readPullPolicy get = .ok ((get "BUILDER_IMAGE_PULL_POLICY").getD defaultPullPolicy) := by
  unfold readPullPolicy
  cases hget : get "BUILDER_IMAGE_PULL_POLICY" with
  | none => rfl
  | some policy =>
    have hmem : policy ∈ pullPolicies := by simpa [pullPolicies] using h policy hget
    simp [hmem]

theorem readPullPolicy_of_unmet (h : ¬ Requirement.pullPolicy.Met get) :
    readPullPolicy get = .error (Requirement.pullPolicy.problem get) := by
  obtain ⟨policy, hget, hnot⟩ : ∃ policy, get "BUILDER_IMAGE_PULL_POLICY" = some policy ∧
      ¬ (policy = "Always" ∨ policy = "IfNotPresent" ∨ policy = "Never") := by
    simpa [Requirement.Met] using h
  have hmem : policy ∉ pullPolicies := by simpa [pullPolicies] using hnot
  have hwords : "BUILDER_IMAGE_PULL_POLICY must be one of " ++ String.intercalate ", " pullPolicies ++
      ", got " = "BUILDER_IMAGE_PULL_POLICY" ++
        " must be one of Always, IfNotPresent, Never, got " := by decide
  have hproblem : Requirement.pullPolicy.problem get = "BUILDER_IMAGE_PULL_POLICY" ++
      (" must be one of Always, IfNotPresent, Never, got " ++
        Text.quote ((get "BUILDER_IMAGE_PULL_POLICY").getD "")) := rfl
  rw [hproblem, hget, Option.getD_some, ← String.append_assoc, ← hwords]
  simp only [readPullPolicy, hget, if_neg hmem]

theorem readNumber_of_readable (h : q.Readable get) :
    ∃ n, readNumber get q.name q.most q.default = .ok n ∧ q.Is get n := by
  cases hget : get q.name with
  | none => exact ⟨q.default, by simp only [readNumber, hget], (Quantity.is_of_none hget).mpr rfl⟩
  | some raw =>
    obtain ⟨n, hle, hn⟩ := h raw hget
    refine ⟨n, ?_, (Quantity.is_of_some hget).mpr hn⟩
    simp only [readNumber, hget, readNatural_of_writes hn hle]

theorem readNumber_of_not_readable (h : ¬ q.Readable get) :
    readNumber get q.name q.most q.default =
      .error (q.name ++ Requirement.unreadable get q) := by
  obtain ⟨raw, hget, hnot⟩ : ∃ raw, get q.name = some raw ∧
      ¬ ∃ n ≤ q.most, Writes (Text.trim raw).toList n := by
    simpa only [Quantity.Readable, not_forall, Option.mem_def, exists_prop] using h
  simp only [readNumber, hget, readNatural_of_not_writes hnot, Requirement.unreadable,
    Option.getD_some, String.append_assoc]

theorem readHealthAddr_of_met (h : Requirement.healthAddr.Met get) :
    ∃ a, readHealthAddr get = .ok a ∧ some a =
      (get "HEALTH_ADDR").elim (some (.v4 [0, 0, 0, 0] 8081)) Address.Socket.parse? := by
  unfold readHealthAddr
  cases hget : get "HEALTH_ADDR" with
  | none => exact ⟨_, rfl, rfl⟩
  | some text =>
    obtain ⟨a, ha⟩ := Option.isSome_iff_exists.mp (h text hget)
    exact ⟨a, by simp only [ha], ha.symm⟩

theorem readHealthAddr_of_unmet (h : ¬ Requirement.healthAddr.Met get) :
    readHealthAddr get = .error (Requirement.healthAddr.problem get) := by
  obtain ⟨text, hget, hnone⟩ : ∃ text, get "HEALTH_ADDR" = some text ∧
      Address.Socket.parse? text = none := by
    simpa [Requirement.Met] using h
  simp only [readHealthAddr, hget, hnone]
  rfl

theorem Quantity.Is.eq_zero (hn : q.Is get n) (h : ¬ q.NotZero get) : n = 0 := by
  obtain ⟨raw, hget, hzero⟩ : ∃ raw, get q.name = some raw ∧ Writes (Text.trim raw).toList 0 := by
    simpa only [Quantity.NotZero, not_forall, Option.mem_def, exists_prop, not_not] using h
  exact ((is_of_some hget).mp hn).unique hzero

theorem Quantity.Is.ne_zero (hn : q.Is get n) (h : q.NotZero get) (hdefault : q.default ≠ 0) :
    n ≠ 0 := by
  rintro rfl
  cases hget : get q.name with
  | none => exact hdefault ((is_of_none hget).mp hn).symm
  | some raw => exact h raw hget ((is_of_some hget).mp hn)

/-- What is left when the numbers are read: they are compared with zero, and then the address is read. -/
def finish (get : String → Option String) (policy : String) (timeout debounce concurrency : Nat) :
    Except Problem Config :=
  if concurrency = 0 then .error "RECONCILE_CONCURRENCY must be at least 1"
  else if timeout = 0 then .error "RECONCILE_TIMEOUT_SECS must be at least 1"
  else do
    let healthAddr ← readHealthAddr get
    return {
      builder := ⟨(get "BUILDER_IMAGE").getD defaultBuilderImage, policy⟩
      watchNamespace := get "WATCH_NAMESPACE"
      reconcileTimeout := timeout
      concurrency, debounce, healthAddr }

theorem read_eq (lookup : String → Option String) : read lookup = (do
    let policy ← readPullPolicy (given lookup)
    let timeout ← readNumber (given lookup) timeoutSeconds.name timeoutSeconds.most
      timeoutSeconds.default
    let debounce ← readNumber (given lookup) debounceSeconds.name debounceSeconds.most
      debounceSeconds.default
    let concurrency ← readNumber (given lookup) runsAtATime.name runsAtATime.most
      runsAtATime.default
    finish (given lookup) policy timeout debounce concurrency) := rfl

theorem read_of_readable (h : ∀ r : Requirement, r.rank < 4 → r.Met (given lookup)) :
    ∃ timeout debounce concurrency, timeoutSeconds.Is (given lookup) timeout ∧
      debounceSeconds.Is (given lookup) debounce ∧ runsAtATime.Is (given lookup) concurrency ∧
      read lookup = finish (given lookup)
        ((given lookup "BUILDER_IMAGE_PULL_POLICY").getD defaultPullPolicy)
        timeout debounce concurrency := by
  have hpolicy := readPullPolicy_of_met (h .pullPolicy (by decide))
  obtain ⟨timeout, htimeout, hasTimeout⟩ :=
    readNumber_of_readable (h .timeoutReadable (by decide))
  obtain ⟨debounce, hdebounce, hasDebounce⟩ :=
    readNumber_of_readable (h .debounceReadable (by decide))
  obtain ⟨concurrency, hconcurrency, hasConcurrency⟩ :=
    readNumber_of_readable (h .concurrencyReadable (by decide))
  refine ⟨timeout, debounce, concurrency, hasTimeout, hasDebounce, hasConcurrency, ?_⟩
  simp only [read_eq, hpolicy, htimeout, hdebounce, hconcurrency, bind, Except.bind]

theorem read_of_healthAddr
    (h : ∀ r : Requirement, r.rank < Requirement.healthAddr.rank → r.Met (given lookup)) :
    ∃ made : Address.Socket → Config, read lookup = (readHealthAddr (given lookup)).map made ∧
      ∀ a, some a = (given lookup "HEALTH_ADDR").elim (some (.v4 [0, 0, 0, 0] 8081))
        Address.Socket.parse? → Carries (given lookup) (made a) := by
  obtain ⟨timeout, debounce, concurrency, hasTimeout, hasDebounce, hasConcurrency, hread⟩ :=
    read_of_readable fun r hr => h r (Nat.lt_trans hr (by decide))
  have hconcurrency : concurrency ≠ 0 :=
    hasConcurrency.ne_zero (h .concurrencyNotZero (by decide)) (by decide)
  have htimeout : timeout ≠ 0 := hasTimeout.ne_zero (h .timeoutNotZero (by decide)) (by decide)
  refine ⟨fun a => {
    builder := ⟨(given lookup "BUILDER_IMAGE").getD defaultBuilderImage,
      (given lookup "BUILDER_IMAGE_PULL_POLICY").getD defaultPullPolicy⟩
    watchNamespace := given lookup "WATCH_NAMESPACE"
    reconcileTimeout := timeout
    concurrency := concurrency
    debounce := debounce
    healthAddr := a }, ?_, ?_⟩
  · rw [hread, finish, if_neg hconcurrency, if_neg htimeout]
    cases readHealthAddr (given lookup) <;> rfl
  · intro a ha
    exact {
      image := rfl
      pullPolicy := rfl
      watchNamespace := rfl
      timeout := hasTimeout
      debounce := hasDebounce
      concurrency := hasConcurrency
      healthAddr := ha
      backoffMin := rfl
      backoffMax := rfl }

/-- The first requirement that is not met is told. -/
theorem read_of_firstUnmet (h : FirstUnmet Requirement.rank (·.Met (given lookup)) r) :
    read lookup = .error (r.problem (given lookup)) := by
  obtain ⟨hunmet, hbefore⟩ := h
  cases r with
  | pullPolicy => simp only [read_eq, readPullPolicy_of_unmet hunmet, bind, Except.bind]
  | timeoutReadable =>
    have hpolicy := readPullPolicy_of_met (hbefore .pullPolicy (by decide))
    simp only [read_eq, hpolicy, readNumber_of_not_readable hunmet, bind, Except.bind]
    rfl
  | debounceReadable =>
    have hpolicy := readPullPolicy_of_met (hbefore .pullPolicy (by decide))
    obtain ⟨timeout, htimeout, -⟩ :=
      readNumber_of_readable (hbefore .timeoutReadable (by decide))
    simp only [read_eq, hpolicy, htimeout, readNumber_of_not_readable hunmet, bind, Except.bind]
    rfl
  | concurrencyReadable =>
    have hpolicy := readPullPolicy_of_met (hbefore .pullPolicy (by decide))
    obtain ⟨timeout, htimeout, -⟩ :=
      readNumber_of_readable (hbefore .timeoutReadable (by decide))
    obtain ⟨debounce, hdebounce, -⟩ :=
      readNumber_of_readable (hbefore .debounceReadable (by decide))
    simp only [read_eq, hpolicy, htimeout, hdebounce, readNumber_of_not_readable hunmet, bind,
      Except.bind]
    rfl
  | concurrencyNotZero =>
    obtain ⟨timeout, debounce, concurrency, -, -, hasConcurrency, hread⟩ :=
      read_of_readable hbefore
    have hzero : concurrency = 0 := hasConcurrency.eq_zero hunmet
    rw [hread, finish, if_pos hzero]
    rfl
  | timeoutNotZero =>
    obtain ⟨timeout, debounce, concurrency, hasTimeout, -, hasConcurrency, hread⟩ :=
      read_of_readable fun r hr => hbefore r (Nat.lt_trans hr (by decide))
    have hconcurrency : concurrency ≠ 0 :=
      hasConcurrency.ne_zero (hbefore .concurrencyNotZero (by decide)) (by decide)
    have hzero : timeout = 0 := hasTimeout.eq_zero hunmet
    rw [hread, finish, if_neg hconcurrency, if_pos hzero]
    rfl
  | healthAddr =>
    obtain ⟨made, hread, -⟩ := read_of_healthAddr hbefore
    rw [hread, readHealthAddr_of_unmet hunmet]
    rfl

theorem read_of_met (h : ∀ r : Requirement, r.Met (given lookup)) :
    ∃ c, read lookup = .ok c ∧ Carries (given lookup) c := by
  obtain ⟨made, hread, hcarries⟩ := read_of_healthAddr fun r _ => h r
  obtain ⟨a, ha, haddr⟩ := readHealthAddr_of_met (h .healthAddr)
  exact ⟨made a, by rw [hread, ha]; rfl, hcarries a haddr⟩

/-- A configuration is read from the acceptable variables and from no others, and it carries what they set
or else the defaults; of what the others lack, the first is told, with the variable that is at fault. -/
theorem configuration_accepted_iff (lookup : String → Option String) :
    ((∃ c, read lookup = .ok c) ↔ Acceptable (given lookup)) ∧
      (∀ c, read lookup = .ok c ↔ Acceptable (given lookup) ∧ Carries (given lookup) c) ∧
      (∀ c, read lookup = .ok c →
        1 ≤ c.concurrency ∧ 1 ≤ c.reconcileTimeout ∧ c.backoffMin ≤ c.backoffMax) ∧
      ∀ e, (start lookup).2 = .error e ↔ ∃ r : Requirement,
        FirstUnmet Requirement.rank (·.Met (given lookup)) r ∧
          e = .invalidConfig (r.problem (given lookup)) ∧
          ∀ v ∈ Requirement.variableNames,
            v.toList <+: (r.problem (given lookup)).toList ↔ v = r.blamed := by
  obtain ⟨hok, herror⟩ : ((∃ c, read lookup = .ok c) ↔ ∀ r : Requirement, r.Met (given lookup)) ∧
      ∀ why, read lookup = .error why ↔ ∃ r : Requirement,
        FirstUnmet Requirement.rank (·.Met (given lookup)) r ∧ why = r.problem (given lookup) :=
    met_iff_and_error_iff (fun h => (read_of_met h).imp fun _ => And.left)
      fun _ => read_of_firstUnmet
  have hcarries : ∀ c, read lookup = .ok c ↔
      Acceptable (given lookup) ∧ Carries (given lookup) c := by
    intro c
    constructor
    · intro hc
      have hmet := hok.mp ⟨c, hc⟩
      obtain ⟨d, hd, hcarries⟩ := read_of_met hmet
      have heq : d = c := Except.ok.inj (hd.symm.trans hc)
      exact ⟨acceptable_iff.mpr hmet, heq ▸ hcarries⟩
    · rintro ⟨hacceptable, hcarries⟩
      obtain ⟨d, hd, hcarries'⟩ := read_of_met (acceptable_iff.mp hacceptable)
      rw [hd, hcarries.unique hcarries']
  refine ⟨hok.trans acceptable_iff.symm, hcarries, ?_, ?_⟩
  · intro c hc
    obtain ⟨hacceptable, hcarries⟩ := (hcarries c).mp hc
    have hmet := acceptable_iff.mp hacceptable
    have hconcurrency := hcarries.concurrency.ne_zero (hmet .concurrencyNotZero) (by decide)
    have htimeout := hcarries.timeout.ne_zero (hmet .timeoutNotZero) (by decide)
    have hmin := hcarries.backoffMin
    have hmax := hcarries.backoffMax
    omega
  · intro e
    have hstart : (start lookup).2 = .error e ↔
        ∃ why, read lookup = .error why ∧ e = .invalidConfig why := by
      unfold start
      cases read lookup <;> simp [eq_comm]
    rw [hstart]
    constructor
    · rintro ⟨why, hwhy, rfl⟩
      obtain ⟨r, hr, rfl⟩ := (herror why).mp hwhy
      exact ⟨r, hr, rfl, r.begins_problem_iff _⟩
    · rintro ⟨r, hr, rfl, -⟩
      exact ⟨_, read_of_firstUnmet hr, rfl⟩

/-- Variables with the greatest numbers, written with a sign, zeros and blanks. -/
def widestVariables (name : String) : Option String :=
  if name = "RECONCILE_TIMEOUT_SECS" then some "\t+0018446744073709551615 "
  else if name = "RECONCILE_CONCURRENCY" then some "+65535"
  else if name = "BUILDER_IMAGE_PULL_POLICY" then some "Never"
  else if name = "WATCH_NAMESPACE" then some " "
  else none

/-- Variables with three faults: too many reconciliations at a time, no time for any, and a name where an
address belongs. -/
def overloadedVariables (name : String) : Option String :=
  if name = "RECONCILE_TIMEOUT_SECS" then some "+0"
  else if name = "RECONCILE_CONCURRENCY" then some "65536"
  else if name = "HEALTH_ADDR" then some "localhost:8081"
  else none

/-- The greatest numbers are taken; of three faults the number that is too great is told. -/
theorem widest_configuration_accepted :
    (∃ c, read widestVariables = .ok c ∧ c.watchNamespace = none ∧
      c.reconcileTimeout = 2 ^ 64 - 1 ∧ c.concurrency = 65535 ∧
      1 ≤ c.concurrency ∧ 1 ≤ c.reconcileTimeout ∧ c.backoffMin ≤ c.backoffMax) ∧
      (start overloadedVariables).2 = .error (.invalidConfig
        "RECONCILE_CONCURRENCY: number too large to fit in target type") := by
  constructor
  · have hmet : ∀ r : Requirement, r.Met (given widestVariables) := by
      intro r
      cases r <;> decide +kernel
    obtain ⟨c, hc⟩ := (configuration_accepted_iff widestVariables).1.mpr (acceptable_iff.mpr hmet)
    obtain ⟨-, hcarries⟩ := ((configuration_accepted_iff widestVariables).2.1 c).mp hc
    have htimeout : c.reconcileTimeout = 2 ^ 64 - 1 := by
      refine hcarries.timeout.unique ?_
      change Writes (Text.trim "\t+0018446744073709551615 ").toList (2 ^ 64 - 1)
      decide +kernel
    have hconcurrency : c.concurrency = 65535 := by
      refine hcarries.concurrency.unique ?_
      change Writes (Text.trim "+65535").toList 65535
      decide +kernel
    exact ⟨c, hc, hcarries.watchNamespace, htimeout, hconcurrency,
      (configuration_accepted_iff widestVariables).2.2.1 c hc⟩
  · have hfirst : FirstUnmet Requirement.rank (·.Met (given overloadedVariables))
        .concurrencyReadable := by
      refine ⟨by decide +kernel, fun before hbefore => ?_⟩
      cases before with
      | pullPolicy | timeoutReadable | debounceReadable => decide +kernel
      | concurrencyReadable | concurrencyNotZero | timeoutNotZero | healthAddr =>
        exact absurd hbefore (by decide)
    refine ((configuration_accepted_iff overloadedVariables).2.2.2 _).mpr
      ⟨.concurrencyReadable, hfirst, ?_, Requirement.begins_problem_iff _ _⟩
    decide +kernel

end ImageForge.Controller.Config
