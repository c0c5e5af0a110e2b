import ImageForge.Shell.Expansion
/-!
Redirections: where the descriptors of a command lead while it runs.
-/

namespace ImageForge.Shell.Script

/-- Opens a file for a descriptor; the error is the complaint. -/
def openFile (opening : Opening) (path : String) : Script (Except String Endpoint) := do
  let c ← context
  let writes := opening = .write || opening = .append
  let refused := fun (reason : String) =>
    return .error ((if writes then "cannot create " else "cannot open ") ++ path ++ ": " ++ reason)
  let none := if writes then "Directory nonexistent" else "No such file"
  let full := resolvePath c.directory path
  let copy := fun (n : Nat) =>
    match c.descriptors.lookup n with
    | some target => return .ok target
    | .none => refused none
  match full with
  | "/dev/null" => return .ok .nowhere
  | "/dev/full" => return .ok .full
  | "/dev/stdin" | "/dev/fd/0" => copy 0
  | "/dev/stdout" | "/dev/fd/1" => copy 1
  | "/dev/stderr" | "/dev/fd/2" => copy 2
  | _ =>
    match kindFrom? c.directory path with
    | some .directory => if opening = .read then return .ok .directory else refused "Is a directory"
    | some _ => unknown
    | .none =>
      if path.isEmpty then refused none
      else if writes && path.endsWith "/" && (fileKind? (parentPath full)).isSome then
        refused "Is a directory"
      else if opening = .read then refused none
      else if (fileKind? (parentPath full)).isSome then unknown
      else if path.startsWith "/" then refused none
      else if '/' ∈ path.toList && !path.startsWith "." then refused none
      else unknown

/-- What a descriptor is to be a copy of: another one, or nothing. -/
def copySource? (text : String) : Option (Option Nat) :=
  match text.toList with
  | ['-'] => some none
  | [d] => if d.isDigit then some (some (d.toNat - '0'.toNat)) else none
  | _ => none

/-- A redirection with its words expanded. -/
inductive Opened
  | file (descriptor : Nat) (opening : Opening) (path : String)
  | copy (descriptor : Nat) (source : Option Nat)
  | document (descriptor : Nat) (text : List Char)

/-- Expands the words of a redirection. -/
def expandRedirect (e : Engine) : Redirect → Script Opened
  | .file d opening target => return .file d opening (← expandText e target)
  | .copy d target => do
    match copySource? (← expandText e target) with
    | some source => return .copy d source
    | none => fail "Syntax error: Bad fd number"
  | .document d n => do
    let w := ((← get).machine.documents.lookup n).getD []
    return .document d (← expandText e w).toList

/-- Carries out a redirection; says whether it could. -/
def redirect (r : Opened) : Script Bool := do
  let lead := fun (d : Nat) (target : Endpoint) =>
    modifyContext fun c => { c with descriptors := putAt d target c.descriptors }
  match r with
  | .file d opening path =>
    match ← openFile opening path with
    | .ok target =>
      lead d target
      return true
    | .error message =>
      complain message
      return false
  | .copy d none =>
    modifyContext fun c => { c with descriptors := c.descriptors.filter (·.1 ≠ d) }
    return true
  | .copy d (some source) =>
    match (← context).descriptors.lookup source with
    | some target =>
      lead d target
      return true
    | none =>
      complain (toString source ++ ": Bad file descriptor")
      return false
  | .document d text =>
    let n ← newChannel
    setChannel n { pending := text }
    lead d (.channel n)
    return true

/-- Carries out redirections until one fails; says whether all could be. -/
def redirectAll : List Opened → Script Bool
  | [] => return true
  | r :: rs => do
    if ← redirect r then redirectAll rs else return false

/-- Puts the descriptors back after something, however it ends. -/
def keepDescriptors {α : Type} (p : Script α) : Script α :=
  inContext id (fun before after => { after with descriptors := before.descriptors }) p

end ImageForge.Shell.Script
