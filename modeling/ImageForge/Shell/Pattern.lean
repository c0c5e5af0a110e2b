/-!
Patterns over texts: any character, any run of characters, and sets of characters. A character of a
pattern that is quoted stands for itself.
-/

namespace ImageForge.Shell

/-- A character of a pattern, and whether it may have a meaning of its own. -/
structure PatternChar where
  char : Char
  active : Bool
  deriving DecidableEq, Repr

inductive SetItem
  | range (first last : Char)
  | named (name : String)
  deriving DecidableEq, Repr

inductive Glob
  | char (c : Char)
  | anyChar
  | anyText
  | set (negated : Bool) (items : List SetItem)
  deriving DecidableEq, Repr

/-- The characters of a named class. -/
def inNamedClass (name : String) (c : Char) : Bool :=
  match name with
  | "alpha" => c.isAlpha
  | "digit" => c.isDigit
  | "alnum" => c.isAlphanum
  | "upper" => c.isUpper
  | "lower" => c.isLower
  | "space" => c == ' ' || (9 ≤ c.toNat && c.toNat ≤ 13)
  | "blank" => c == ' ' || c == '\t'
  | "punct" => 33 ≤ c.toNat && c.toNat ≤ 126 && !c.isAlphanum
  | "print" => 32 ≤ c.toNat && c.toNat ≤ 126
  | "graph" => 33 ≤ c.toNat && c.toNat ≤ 126
  | "cntrl" => c.toNat < 32 || c.toNat == 127
  | "xdigit" => c.isDigit || ('a' ≤ c && c ≤ 'f') || ('A' ≤ c && c ≤ 'F')
  | _ => false

def SetItem.contains (i : SetItem) (c : Char) : Bool :=
  match i with
  | .range first last => first ≤ c && c ≤ last
  | .named name => inNamedClass name c

def Glob.matchesChar (g : Glob) (c : Char) : Bool :=
  match g with
  | .char d => c == d
  | .anyChar => true
  | .anyText => false
  | .set negated items => items.any (·.contains c) != negated

/-- The name of a class and what follows it, when one is written here. -/
def className? : List PatternChar → Option (String × List PatternChar)
  | ⟨'[', true⟩ :: ⟨':', true⟩ :: rest =>
    let name := rest.takeWhile (·.char.isAlpha)
    match rest.drop name.length with
    | ⟨':', true⟩ :: ⟨']', true⟩ :: rest => some (String.ofList (name.map (·.char)), rest)
    | _ => none
  | _ => none

/-- The items of a set and what follows it; `none` when the set does not end. A closing bracket that
comes first is an item. -/
def setItems : Nat → Bool → List PatternChar → Option (List SetItem × List PatternChar)
  | 0, _, _ => none
  | _, _, [] => none
  | limit + 1, first, c :: rest =>
    if c == ⟨']', true⟩ && !first then some ([], rest)
    else match className? (c :: rest) with
      | some (name, rest) =>
        (setItems limit false rest).map fun (items, rest) => (.named name :: items, rest)
      | none =>
        match rest with
        | ⟨'-', true⟩ :: last :: rest' =>
          if last == ⟨']', true⟩ then
            (setItems limit false rest).map fun (items, rest) => (.range c.char c.char :: items, rest)
          else
            (setItems limit false rest').map fun (items, rest) =>
              (.range c.char last.char :: items, rest)
        | _ =>
          (setItems limit false rest).map fun (items, rest) => (.range c.char c.char :: items, rest)

/-- The set that begins after an opening bracket. -/
def readSet? (rest : List PatternChar) : Option (Glob × List PatternChar) :=
  let (negated, rest) := match rest with
    | ⟨'!', true⟩ :: rest | ⟨'^', true⟩ :: rest => (true, rest)
    | rest => (false, rest)
  (setItems (rest.length + 1) true rest).map fun (items, rest) => (.set negated items, rest)

/-- A pattern as what it is made of, within a number of steps. -/
def globs : Nat → List PatternChar → List Glob
  | 0, _ => []
  | _, [] => []
  | limit + 1, c :: rest =>
    if !c.active then .char c.char :: globs limit rest
    else match c.char with
      | '*' => .anyText :: globs limit rest
      | '?' => .anyChar :: globs limit rest
      | '[' =>
        match readSet? rest with
        | some (g, rest) => g :: globs limit rest
        | none => .char '[' :: globs limit rest
      | '\\' =>
        match rest with
        | d :: rest => .char d.char :: globs limit rest
        | [] => [.char '\\']
      | d => .char d :: globs limit rest

/-- Whether a pattern matches the whole of a text. -/
def globMatches : List Glob → List Char → Bool
  | [], cs => cs.isEmpty
  | .anyText :: gs, [] => globMatches gs []
  | .anyText :: gs, c :: cs => globMatches gs (c :: cs) || globMatches (.anyText :: gs) cs
  | _ :: _, [] => false
  | g :: gs, c :: cs => g.matchesChar c && globMatches gs cs
termination_by gs cs => gs.length + cs.length

/-- Whether a pattern matches the whole of a text. -/
def patternMatches (pattern : List PatternChar) (text : List Char) : Bool :=
  globMatches (globs pattern.length pattern) text

/-- How many characters a pattern matches at one end of a text, as many or as few as possible. -/
def matchLength? (atEnd longest : Bool) (pattern : List PatternChar) (text : List Char) : Option Nat :=
  let gs := globs pattern.length pattern
  let lengths := List.range (text.length + 1)
  (if longest then lengths.reverse else lengths).find? fun n =>
    globMatches gs (if atEnd then text.drop (text.length - n) else text.take n)

end ImageForge.Shell
