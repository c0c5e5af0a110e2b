import ImageForge.Address.Socket
import ImageForge.Controller.BuilderJob
import ImageForge.Text.Quoted
/-!
The configuration of the controller, read from variables. A variable that is blank counts as not set.
-/

namespace ImageForge.Controller

structure Config where
  builder : BuilderSettings := {}
  watchNamespace : Option String := none
  reconcileTimeout : Nat := 60
  concurrency : Nat := 4
  debounce : Nat := 1
  healthAddr : Address.Socket := .v4 [0, 0, 0, 0] 8081
  backoffMin : Nat := 5
  backoffMax : Nat := 300
  deriving DecidableEq, Repr

/-- Why a text is not a number of some width. -/
inductive NumberError
  | invalidDigit
  | tooLarge
  deriving DecidableEq, Repr

def NumberError.message : NumberError → String
  | .invalidDigit => "invalid digit found in string"
  | .tooLarge => "number too large to fit in target type"

/-- Reads decimal digits onto a number; the first character that is wrong decides. -/
def readDigits (most acc : Nat) : List Char → Except NumberError Nat
  | [] => .ok acc
  | c :: cs =>
    if !c.isDigit then .error .invalidDigit
    else
      let n := acc * 10 + (c.toNat - '0'.toNat)
      if most < n then .error .tooLarge else readDigits most n cs

/-- Reads a natural up to `most`, which may begin with one plus sign. -/
def readNatural (most : Nat) (cs : List Char) : Except NumberError Nat :=
  match (match cs with
    | '+' :: rest => rest
    | _ => cs) with
  | [] => .error .invalidDigit
  | ds => readDigits most 0 ds

def pullPolicies : List String := ["Always", "IfNotPresent", "Never"]

/-- The greatest number of seconds. -/
def maxSeconds : Nat := UInt64.size - 1

/-- The greatest number of reconciliations at a time. -/
def maxConcurrency : Nat := UInt16.size - 1

namespace Config

/-- What is wrong with a configuration, in words. -/
abbrev Problem := String

def readPullPolicy (get : String → Option String) : Except Problem String :=
  match get "BUILDER_IMAGE_PULL_POLICY" with
  | none => .ok defaultPullPolicy
  | some policy =>
    if policy ∈ pullPolicies then .ok policy
    else .error ("BUILDER_IMAGE_PULL_POLICY must be one of " ++
      String.intercalate ", " pullPolicies ++ ", got " ++ Text.quote policy)

def readNumber (get : String → Option String) (key : String) (most default : Nat) :
    Except Problem Nat :=
  match get key with
  | none => .ok default
  | some raw =>
    match readNatural most (Text.trim raw).toList with
    | .ok n => .ok n
    | .error e => .error (key ++ ": " ++ e.message)

def readHealthAddr (get : String → Option String) : Except Problem Address.Socket :=
  match get "HEALTH_ADDR" with
  | none => .ok (.v4 [0, 0, 0, 0] 8081)
  | some text =>
    match Address.Socket.parse? text with
    | some a => .ok a
    | none => .error "HEALTH_ADDR: invalid socket address syntax"

/-- Reads a configuration; the first problem is reported. Numbers are read before any of them is
checked against zero. -/
def read (lookup : String → Option String) : Except Problem Config := do
  let get := fun key => (lookup key).filter (!Text.isBlankText ·)
  let policy ← readPullPolicy get
  let timeout ← readNumber get "RECONCILE_TIMEOUT_SECS" maxSeconds 60
  let debounce ← readNumber get "RECONCILE_DEBOUNCE_SECS" maxSeconds 1
  let concurrency ← readNumber get "RECONCILE_CONCURRENCY" maxConcurrency 4
  if concurrency = 0 then .error "RECONCILE_CONCURRENCY must be at least 1"
  if timeout = 0 then .error "RECONCILE_TIMEOUT_SECS must be at least 1"
  let healthAddr ← readHealthAddr get
  return {
    builder := ⟨(get "BUILDER_IMAGE").getD defaultBuilderImage, policy⟩
    watchNamespace := get "WATCH_NAMESPACE"
    reconcileTimeout := timeout
    concurrency, debounce, healthAddr }

end Config

end ImageForge.Controller
