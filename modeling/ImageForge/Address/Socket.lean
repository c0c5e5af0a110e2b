/-!
Socket addresses: an address of version 4 or 6 and a service number after a colon, read strictly and
written in canonical form.
-/

namespace ImageForge.Address

/-- A reader of the start of a text answers a value and the rest. -/
abbrev Reader (α : Type) := List Char → Option (α × List Char)

inductive Socket
  | v4 (octets : List Nat) (service : Nat)
  | v6 (groups : List Nat) (scope service : Nat)
  deriving DecidableEq, Repr

/-- The value of a digit in a base up to sixteen. -/
def digit? (base : Nat) (c : Char) : Option Nat :=
  let value :=
    if c.isDigit then some (c.toNat - '0'.toNat)
    else if 'a' ≤ c ∧ c ≤ 'f' then some (c.toNat - 'a'.toNat + 10)
    else if 'A' ≤ c ∧ c ≤ 'F' then some (c.toNat - 'A'.toNat + 10)
    else none
  value.filter (· < base)

def givenChar (c : Char) : Reader Unit
  | x :: rest => if x = c then some ((), rest) else none
  | [] => none

/-- A number of at least one digit, at most `maxDigits` if that is given, and at most `most`. -/
def number (base : Nat) (maxDigits : Option Nat) (leadingZero : Bool) (most : Nat) : Reader Nat :=
  fun cs =>
    let ds := cs.takeWhile fun c => (digit? base c).isSome
    let n := ds.foldl (fun n c => n * base + (digit? base c).getD 0) 0
    if ds.isEmpty ∨ maxDigits.any (· < ds.length) ∨ most < n then none
    else if !leadingZero ∧ ds.head? = some '0' ∧ 1 < ds.length then none
    else some (n, cs.drop ds.length)

/-- A part of an address; every part but the first follows a separator. -/
def part {α : Type} (separator : Char) (first : Bool) (inner : Reader α) : Reader α := fun cs =>
  if first then inner cs
  else (givenChar separator cs).bind fun (_, rest) => inner rest

/-- Some more octets. -/
def octets : Nat → Bool → Reader (List Nat)
  | 0, _, cs => some ([], cs)
  | n + 1, first, cs => do
    let (o, cs) ← part '.' first (number 10 (some 3) false 255) cs
    let (os, cs) ← octets n false cs
    some (o :: os, cs)

def ipv4 : Reader (List Nat) := octets 4 true

/-- Up to `room` groups of sixteen bits, as many as there are; an address of version 4 may stand for
the last two. Answers whether one did. -/
def groups : Nat → Bool → List Char → List Nat × Bool × List Char
  | 0, _, cs => ([], false, cs)
  | room + 1, first, cs =>
    match (if room ≥ 1 then part ':' first ipv4 cs else none) with
    | some (os, rest) =>
      ([os.getD 0 0 * 256 + os.getD 1 0, os.getD 2 0 * 256 + os.getD 3 0], true, rest)
    | none =>
      match part ':' first (number 16 (some 4) true 65535) cs with
      | some (g, rest) =>
        let (gs, embedded, rest) := groups room false rest
        (g :: gs, embedded, rest)
      | none => ([], false, cs)

/-- Eight groups, or fewer with `::` for the zeros between. -/
def ipv6 : Reader (List Nat) := fun cs =>
  let (front, embedded, rest) := groups 8 true cs
  if front.length = 8 then some (front, rest)
  else if embedded then none
  else do
    let (_, rest) ← givenChar ':' rest
    let (_, rest) ← givenChar ':' rest
    let (back, _, rest) := groups (7 - front.length) true rest
    some (front ++ List.replicate (8 - front.length - back.length) 0 ++ back, rest)

/-- The service number of an address. -/
def service : Reader Nat := fun cs => do
  let (_, cs) ← givenChar ':' cs
  number 10 none true 65535 cs

/-- The scope after a per cent sign; zero when there is none. -/
def scope (cs : List Char) : Nat × List Char :=
  match (givenChar '%' cs).bind fun (_, rest) => number 10 none true (UInt32.size - 1) rest with
  | some found => found
  | none => (0, cs)

def socketV4 : Reader Socket := fun cs => do
  let (os, cs) ← ipv4 cs
  let (p, cs) ← service cs
  some (.v4 os p, cs)

def socketV6 : Reader Socket := fun cs => do
  let (_, cs) ← givenChar '[' cs
  let (gs, cs) ← ipv6 cs
  let (s, cs) := scope cs
  let (_, cs) ← givenChar ']' cs
  let (p, cs) ← service cs
  some (.v6 gs s p, cs)

/-- The socket address that a text writes. -/
def Socket.parse? (s : String) : Option Socket :=
  let cs := s.toList
  match (socketV4 cs).orElse fun _ => socketV6 cs with
  | some (a, []) => some a
  | _ => none

def octetsText (os : List Nat) : String := String.intercalate "." (os.map toString)

def groupsText (gs : List Nat) : String :=
  String.intercalate ":" (gs.map fun g => String.ofList (Nat.toDigits 16 g))

/-- The start and length of the longest run of zero groups, the first of several: `best` is the best
so far, `run` the length of the run that ends just before place `i`. -/
def longestZeros (best : Nat × Nat) (run i : Nat) : List Nat → Nat × Nat
  | [] => best
  | g :: gs =>
    if g = 0 then
      let run := run + 1
      let best := if best.2 < run then (i + 1 - run, run) else best
      longestZeros best run (i + 1) gs
    else longestZeros best 0 (i + 1) gs

/-- The canonical text of eight groups. -/
def ipv6Text (gs : List Nat) : String :=
  if gs.take 6 = [0, 0, 0, 0, 0, 0xffff] then
    let hi := gs.getD 6 0
    let lo := gs.getD 7 0
    "::ffff:" ++ octetsText [hi / 256, hi % 256, lo / 256, lo % 256]
  else
    let (start, length) := longestZeros (0, 0) 0 0 gs
    if length > 1 then groupsText (gs.take start) ++ "::" ++ groupsText (gs.drop (start + length))
    else groupsText gs

def Socket.render : Socket → String
  | .v4 os p => octetsText os ++ ":" ++ toString p
  | .v6 gs s p =>
    let zone := if s = 0 then "" else "%" ++ toString s
    "[" ++ ipv6Text gs ++ zone ++ "]:" ++ toString p

end ImageForge.Address
