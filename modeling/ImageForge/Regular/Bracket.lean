import ImageForge.Regular.Escape
/-!
Sets of characters in brackets: characters, ranges, classes and further sets, joined by the operations
of sets. Of a set only its height is kept, the number of sets and operations that stand inside one
another.
-/

namespace ImageForge.Regular

/-- Items that stand side by side: how many they are, and the greatest of their heights. -/
structure Items where
  size : Nat := 0
  height : Nat := 0
  deriving DecidableEq, Repr

/-- One more item. -/
def Items.push (i : Items) (height : Nat) : Items := ⟨i.size + 1, max i.height height⟩

/-- The height of all items together; one that stands alone is no group. -/
def Items.total (i : Items) : Nat := if i.size ≤ 1 then i.height else i.height + 1

/-- The height of an operation whose left side, if it has one, is given. -/
def Items.joined (i : Items) : Option Nat → Nat
  | none => i.total
  | some left => 1 + max left i.total

/-- The names of the classes that are written `[:name:]`. -/
def asciiClasses : List String :=
  ["alnum", "alpha", "ascii", "blank", "cntrl", "digit", "graph", "lower", "print", "punct", "space",
    "upper", "word", "xdigit"]

/-- A class by its name, after the bracket that opens it: whether it is negated, and what follows. -/
def asciiClass? : List Char → Option (Bool × List Char)
  | ':' :: cs =>
    let (negated, cs) := match cs with
      | '^' :: cs => (true, cs)
      | cs => (false, cs)
    let name := cs.takeWhile (· != ':')
    match cs.drop name.length with
    | ':' :: ']' :: rest => if String.ofList name ∈ asciiClasses then some (negated, rest) else none
    | _ => none
  | _ => none

/-- The character after the blanks and remarks behind a hyphen. The first character of a remark that is
no blank is taken for it. -/
def Mode.peek? (m : Mode) (cs : List Char) : Option Char :=
  if m.spaced then
    match cs.dropWhile Text.isBlank with
    | '#' :: remark => (remark.dropWhile Text.isBlank).head?
    | cs => cs.head?
  else cs.head?

/-- One end of a range. -/
def setEnd? (m : Mode) : List Char → Option (Primitive × List Char)
  | [] => none
  | '\\' :: cs => escape? m cs
  | c :: cs => some (.char c false, cs)

/-- What follows an item of a set: a range, or what stands alone. -/
def afterItem? (m : Mode) (cs : List Char) : Option (List Char) := do
  let (first, cs) ← setEnd? m cs
  if !first.fitsSet m then none
  match m.skip cs with
  | '-' :: rest =>
    if m.peek? rest = some ']' ∨ m.peek? rest = some '-' then some ('-' :: rest)
    else
      let (last, cs) ← setEnd? m (m.skip rest)
      match first, last with
      | .char a _, .char b _ => if a ≤ b && last.fitsSet m then some cs else none
      | _, _ => none
  | cs => some cs

/-- Reads a set up to its closing bracket: its height, and what follows. At its start hyphens and one
closing bracket mean themselves. -/
def setRest? (m : Mode) : Nat → Bool → Option Nat → Items → List Char → Option (Nat × List Char)
  | 0, _, _, _, _ => none
  | limit + 1, start, left, items, cs =>
    match m.skip cs with
    | [] => none
    | ']' :: cs =>
      if start && items.size = 0 then setRest? m limit false left (items.push 0) cs
      else some (items.joined left, cs)
    | '[' :: cs =>
      match asciiClass? cs with
      | some (negated, cs) =>
        if negated && !m.unicode then none else setRest? m limit false left (items.push 0) cs
      | none => do
        let cs := m.skip cs
        let negated := cs.head? = some '^'
        let (height, cs) ← setRest? m limit true none {} (if negated then cs.drop 1 else cs)
        if negated && !m.unicode then none
        setRest? m limit false left (items.push (height + 1)) cs
    | c :: cs =>
      if start && c = '-' then setRest? m limit true left (items.push 0) cs
      else if c ∈ ['&', '-', '~'] && cs.head? = some c then
        setRest? m limit false (some (items.joined left)) {} (cs.drop 1)
      else do
        let cs ← afterItem? m (c :: cs)
        setRest? m limit false left (items.push 0) cs

/-- A set after the bracket that opens it: its height, and what follows. -/
def set? (m : Mode) (cs : List Char) : Option (Nat × List Char) := do
  let cs := m.skip cs
  let negated := cs.head? = some '^'
  let (height, rest) ← setRest? m (cs.length + 1) true none {} (if negated then cs.drop 1 else cs)
  if negated && !m.unicode then none
  some (height + 1, rest)

end ImageForge.Regular
