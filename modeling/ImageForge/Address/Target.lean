/-!
Where a request goes: the path and the query of its target. A target is a path, an absolute address with
a scheme and a host, or a host alone; what follows a `#` is not part of it.
-/

namespace ImageForge.Address

structure Target where
  path : String
  query : Option String := none
  deriving DecidableEq, Repr

namespace Target

/-- The greatest number of bytes of a target. -/
def maxBytes : Nat := 65534

/-- Characters of a path; blanks, controls, angle brackets and the grave accent are none. -/
def isPathChar (c : Char) : Bool :=
  let n := c.toNat
  n == 0x21 || n == 0x22 || (0x24 ≤ n && n ≤ 0x3B) || n == 0x3D || (0x40 ≤ n && n ≤ 0x5F) ||
    (0x61 ≤ n && n != 0x7F)

/-- Characters of a query; blanks, controls, quotes and angle brackets are none. -/
def isQueryChar (c : Char) : Bool :=
  let n := c.toNat
  n == 0x21 || (0x24 ≤ n && n ≤ 0x3B) || n == 0x3D || (0x3F ≤ n && n != 0x7F)

/-- The target that a path with its query is. -/
def ofPathAndQuery? (cs : List Char) : Option Target :=
  let cs := cs.takeWhile (· ≠ '#')
  let path := cs.takeWhile (· ≠ '?')
  let query := match cs.drop path.length with
    | _ :: q => some q
    | [] => none
  if path.all isPathChar && (query.getD []).all isQueryChar then
    some ⟨if path.isEmpty then "/" else String.ofList path, query.map String.ofList⟩
  else none

/-- What has been seen of a host: colons since the user, the brackets, and a percent sign since the
user. -/
structure HostState where
  colons : Nat := 0
  opened : Bool := false
  closed : Bool := false
  percent : Bool := false

def isHostChar (c : Char) : Bool :=
  c.isAlphanum || c ∈ ['!', '$', '&', '\'', '(', ')', '*', '+', ',', '-', '.', ';', '=', '_', '~']

def HostState.step (s : HostState) (c : Char) : Option HostState :=
  match c with
  | ':' => if 8 ≤ s.colons then none else some { s with colons := s.colons + 1 }
  | '[' => if s.percent || s.opened then none else some { s with opened := true }
  | ']' =>
    if !s.opened || s.closed then none
    else some { s with closed := true, colons := 0, percent := false }
  | '@' => some { s with colons := 0, percent := false }
  | '%' => some { s with percent := true }
  | c => if isHostChar c then some s else none

/-- Whether some characters are a host, with a user before it and a service number after it. -/
def isHost (cs : List Char) : Bool :=
  match cs.foldlM HostState.step {} with
  | none => false
  | some s => s.opened == s.closed && s.colons ≤ 1 && !s.percent && cs.getLast? != some '@'

def isSchemeChar (c : Char) : Bool := c.isAlphanum || c ∈ ['+', '-', '.', '~']

/-- What follows the scheme of an absolute address. -/
def afterScheme? (cs : List Char) : Option (List Char) :=
  let scheme := cs.takeWhile isSchemeChar
  match cs.drop scheme.length with
  | ':' :: '/' :: '/' :: rest => some rest
  | _ => none

/-- The longest scheme. -/
def maxScheme : Nat := 64

/-- The target that a text writes. -/
def parse? (s : String) : Option Target :=
  let cs := s.toList
  let hostOf := fun (cs : List Char) => cs.takeWhile fun c => c != '/' && c != '?' && c != '#'
  if maxBytes < s.utf8ByteSize then none
  else match cs with
    | [] => none
    | ['*'] => some ⟨"*", none⟩
    | '/' :: _ => ofPathAndQuery? cs
    | _ =>
      match afterScheme? cs with
      | none => if isHost cs && (hostOf cs).length = cs.length then some ⟨"", none⟩ else none
      | some rest =>
        let host := hostOf rest
        if maxScheme + 3 < cs.length - rest.length || host.isEmpty || !isHost host then none
        else ofPathAndQuery? (rest.drop host.length)

/-- A byte of a value in a query. -/
def queryByte (b : UInt8) : List Char :=
  let c := Char.ofNat b.toNat
  if c.isAlphanum || c ∈ ['*', '-', '.', '_'] then [c]
  else if c = ' ' then ['+']
  else '%' :: [Nat.digitChar (b.toNat / 16), Nat.digitChar (b.toNat % 16)].map Char.toUpper

/-- The text of a value in a query. -/
def queryValue (s : String) : String := String.ofList (s.toUTF8.toList.flatMap queryByte)

/-- The text of a path with parameters, each behind an `&`. -/
def withParameters (path : String) (parameters : List (String × String)) : String :=
  String.join ((path ++ "?") :: parameters.map fun p => "&" ++ p.1 ++ "=" ++ queryValue p.2)

end Target

end ImageForge.Address
