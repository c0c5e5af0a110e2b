import ImageForge.Regular.Bracket
import ImageForge.Text.Alphabetic
/-!
Regular expressions: which texts are expressions that can be matched without going back. There are
groups, alternatives, repetitions and flags; there are no references to groups, and nothing looks
ahead or behind.
-/

namespace ImageForge.Regular

/-- Parts that follow one another, and the height of the last one when it can be repeated. -/
structure Sequence where
  items : Items := {}
  last : Option Nat := none
  deriving DecidableEq, Repr

/-- One more part. -/
def Sequence.push (s : Sequence) (height : Nat) : Sequence := ⟨s.items.push height, some height⟩

/-- Flags are a part that cannot be repeated. -/
def Sequence.pushFlags (s : Sequence) : Sequence := ⟨s.items.push 0, none⟩

/-- The last part repeated. -/
def Sequence.repeatLast? (s : Sequence) : Option Sequence :=
  s.last.map fun h => ⟨⟨s.items.size, max s.items.height (h + 1)⟩, some (h + 1)⟩

/-- How an opening parenthesis goes on: with flags alone, or with a group, which may have a name. -/
inductive Opening
  | flags (m : Mode)
  | group (m : Mode) (name : Option String)
  deriving DecidableEq, Repr

/-- The flags that there are: letter case, several lines, dots, greed, Unicode, line ends, blanks. -/
def knownFlags : List Char := "imsUuRx".toList

/-- What some flags say about one of them: flags behind a hyphen are taken back. -/
def flagValue? (flag : Char) (flags : List Char) : Option Bool :=
  if flag ∈ flags.takeWhile (· != '-') then some true
  else if flag ∈ flags then some false
  else none

/-- The mode under some flags. -/
def Mode.under (m : Mode) (flags : List Char) : Mode :=
  ⟨(flagValue? 'x' flags).getD m.spaced, (flagValue? 'u' flags).getD m.unicode⟩

/-- Flags are known, written once, and followed by something when a hyphen takes them back. -/
def areFlags (flags : List Char) : Bool :=
  flags.all (fun c => c == '-' || knownFlags.contains c) && decide flags.Nodup &&
    flags.getLast? != some '-'

/-- A name begins with a letter or a low line. -/
def isName (cs : List Char) : Bool :=
  match cs with
  | [] => false
  | c :: cs =>
    (c == '_' || Text.isAlphabetic c) &&
      cs.all fun c => c ∈ ['_', '.', '[', ']'] || Text.isAlphanumeric c

/-- The name of a group and what follows it. -/
def groupName? (cs : List Char) : Option (String × List Char) :=
  let name := cs.takeWhile (· != '>')
  match cs.drop name.length with
  | _ :: rest => if isName name then some (String.ofList name, rest) else none
  | [] => none

/-- How the characters after an opening parenthesis go on. -/
def opening? (m : Mode) (cs : List Char) : Option (Opening × List Char) :=
  match m.skip cs with
  | '?' :: '<' :: '=' :: _ | '?' :: '<' :: '!' :: _ => none
  | '?' :: 'P' :: '<' :: cs | '?' :: '<' :: cs =>
    (groupName? cs).map fun (name, rest) => (.group m (some name), rest)
  | '?' :: cs =>
    let flags := cs.takeWhile fun c => c != ':' && c != ')'
    match cs.drop flags.length with
    | ':' :: rest => if areFlags flags then some (.group (m.under flags) none, rest) else none
    | _ :: rest =>
      if areFlags flags && !flags.isEmpty then some (.flags (m.under flags), rest) else none
    | [] => none
  | cs => some (.group m none, cs)

/-- A group that is being read: its mode, the names of groups so far, its earlier alternatives and the
sequence of the present one. -/
structure Progress where
  mode : Mode := {}
  names : List String := []
  branches : Items := {}
  sequence : Sequence := {}
  deriving DecidableEq, Repr

/-- The height of a group without its parentheses. -/
def Progress.height (p : Progress) : Nat :=
  (p.branches.push p.sequence.items.total).total

/-- One more part of the present sequence. -/
def Progress.push (p : Progress) (height : Nat) : Progress :=
  { p with sequence := p.sequence.push height }

/-- One more alternative. -/
def Progress.nextBranch (p : Progress) : Progress :=
  { p with branches := p.branches.push p.sequence.items.total, sequence := {} }

/-- A part by itself: a character, an edge, or what a backslash begins. -/
def primitive? (m : Mode) : List Char → Option (Primitive × List Char)
  | [] => none
  | '\\' :: cs => escape? m cs
  | '.' :: cs => some (.anyChar, cs)
  | '^' :: cs | '$' :: cs => some (.edge false, cs)
  | c :: cs => some (.char c false, cs)

/-- Reads a group up to its closing parenthesis, which is not taken, or to the end. -/
def groupRest? : Nat → Progress → List Char → Option (Progress × List Char)
  | 0, _, _ => none
  | limit + 1, p, cs =>
    match p.mode.skip cs with
    | [] => some (p, [])
    | ')' :: cs => some (p, ')' :: cs)
    | '|' :: cs => groupRest? limit p.nextBranch cs
    | '(' :: cs => do
      let (opening, cs) ← opening? p.mode cs
      match opening with
      | .flags m =>
        groupRest? limit { p with mode := m, sequence := p.sequence.pushFlags } cs
      | .group m name =>
        if name.any (· ∈ p.names) then none
        else match ← groupRest? limit { mode := m, names := name.toList ++ p.names } cs with
          | (inner, ')' :: cs) =>
            groupRest? limit { p.push (inner.height + 1) with names := inner.names } cs
          | _ => none
    | '[' :: cs => do
      let (height, cs) ← set? p.mode cs
      groupRest? limit (p.push height) cs
    | '?' :: cs | '*' :: cs | '+' :: cs => do
      let sequence ← p.sequence.repeatLast?
      groupRest? limit { p with sequence } (if cs.head? = some '?' then cs.drop 1 else cs)
    | '\x7b' :: _ => none
    | cs => do
      let (primitive, cs) ← primitive? p.mode cs
      if primitive.fits p.mode then groupRest? limit (p.push 0) cs else none

/-- How many parts of an expression may stand inside one another. -/
def maxHeight : Nat := 250

/-- Whether a text is an expression. -/
def isExpression (text : String) : Bool :=
  match groupRest? (text.length + 1) {} text.toList with
  | some (p, []) => p.height ≤ maxHeight
  | _ => false

end ImageForge.Regular
