import ImageForge.Shell.Token
/-!
Reading the words of a script: quoting, parameters, command substitutions and arithmetic. What a
character means depends on where it stands; a part inside double quotes is marked as quoted.
-/

namespace ImageForge.Shell

/-- Where the characters of a word stand. -/
inductive Place
  | bare
  /-- The word in a parameter's braces. -/
  | braced
  | double
  /-- The word in a parameter's braces inside double quotes. -/
  | bracedDouble
  /-- A text given in the script. -/
  | document
  | arithmetic
  deriving DecidableEq, Repr

/-- Whether characters there are taken as in double quotes. -/
def Place.quotes : Place → Bool
  | .bare | .braced => false
  | _ => true

/-- The characters that a backslash takes the meaning from, where characters are quoted already. -/
def Place.escapable (p : Place) (c : Char) : Bool :=
  c ∈ ['\\', '\x60', '$'] ||
    (c == '"' && p ≠ .document) || (c == '\x7d' && p == .bracedDouble)

/-- A character as it is. -/
def Place.literal (p : Place) (c : Char) : Part :=
  if p.quotes then .quoted [c] else .plain [c]

/-- Characters that end a word outside of all quotes. -/
def endsWord (c : Char) : Bool :=
  c ∈ [' ', '\t', '\n', ';', '&', '|', '<', '>', '(', ')']

/-- What the readers of words and of commands need from each other, at some depth of nesting. -/
structure Grammar where
  /-- The parts from here to where the place ends; what ends it stays. -/
  parts : Place → Reader Word
  /-- A list of commands, which may be empty. -/
  commands : Reader Command

/-- Joins neighbouring characters of the same kind. -/
def joinParts : Word → Word
  | [] => []
  | p :: rest =>
    match p, joinParts rest with
    | .plain [], rest => rest
    | .plain a, .plain b :: rest => .plain (a ++ b) :: rest
    | .quoted a, .quoted b :: rest => .quoted (a ++ b) :: rest
    | p, rest => p :: rest

/-- What follows a backslash. -/
def readEscaped (p : Place) : Reader Part := do
  match ← take with
  | none => return .quoted ['\\']
  | some '\n' => return .plain []
  | some c => return .quoted (if p.quotes && !p.escapable c then ['\\', c] else [c])

/-- What follows an opening double quote. -/
def readDouble (g : Grammar) : Reader Part := do
  let parts ← g.parts .double
  match ← take with
  | some _ => return .double parts
  | none => refuse "Unterminated quoted string"

/-- The place of the word in a parameter's braces. -/
def Place.inner (p : Place) (use : Use) : Place :=
  match use with
  | .trim _ _ => .braced
  | _ => if p.quotes then .bracedDouble else .braced

/-- Reads the word in a parameter's braces and the closing brace. -/
def readBraced (g : Grammar) (p : Place) (name : String) (use : Use) : Reader Part := do
  let inner := p.inner use
  let word ← g.parts inner
  match ← take with
  | some _ => return .parameter name use word p.quotes
  | none =>
    refuse (if inner.quotes && p ≠ .document then "Unterminated quoted string"
      else "Missing '\x7d'")

/-- The alternative that a sign asks for. -/
def alternative? : Char → Option Alternative
  | '-' => some .default
  | '=' => some .assign
  | '?' => some .complain
  | '+' => some .replace
  | _ => none

/-- Takes the character in the place of a sign; a newline there does not count as the end of a line. -/
def takeSign : Reader Unit := do
  let line := (← get).line
  discard take
  modify fun r => { r with line }

/-- Reads how a parameter in braces is used, after its name, and the rest up to the closing brace. -/
def readUse (g : Grammar) (p : Place) (name : String) : Reader Part := do
  match ← peekJoined with
  | some '\x7d' =>
    discard take
    return .parameter name .value [] p.quotes
  | some ':' =>
    discard take
    match ← peekJoined with
    | some '\x7d' =>
      discard take
      readBraced g p name .value
    | c =>
      takeSign
      readBraced g p name (match c.bind alternative? with
        | some kind => .alternative kind true
        | none => .invalid)
  | some '%' =>
    discard take
    readBraced g p name (.trim true (← accept '%'))
  | some '#' =>
    discard take
    readBraced g p name (.trim false (← accept '#'))
  | c =>
    takeSign
    readBraced g p name (match c.bind alternative? with
      | some kind => .alternative kind false
      | none => .invalid)

/-- Reads a parameter's length, after its name. -/
def readLength (g : Grammar) (p : Place) (name : String) : Reader Part := do
  if ← accept '\x7d' then return .parameter name .length [] p.quotes
  readBraced g p name .invalid

/-- The name of a parameter in braces: a name or digits. -/
def readName (c : Char) : Reader String := do
  return String.ofList (← takeWhile (if c.isDigit then Char.isDigit else inName) (← stepsLeft))

/-- What follows an opening brace. -/
def readParameter (g : Grammar) (p : Place) : Reader Part := do
  match ← peekJoined with
  | none => readBraced g p "" .invalid
  | some '#' =>
    discard take
    match ← peekJoined with
    | some c =>
      if inName c then readLength g p (← readName c)
      else
        let before ← get
        discard take
        if c ≠ '\x7d' && (← peekJoined) = some '\x7d' then
          if isSpecialParameter c then readLength g p (String.singleton c)
          else readBraced g p "" .invalid
        else
          set before
          readUse g p "#"
    | none => readUse g p "#"
  | some c =>
    if inName c then readUse g p (← readName c)
    else if c = '\x7d' then readBraced g p "" .invalid
    else
      discard take
      if isSpecialParameter c then readUse g p (String.singleton c)
      else readBraced g p "" .invalid

/-- The parts of an arithmetic expression up to the two parentheses that end it, knowing how many are
open. -/
def readArithmetic (g : Grammar) : Nat → Nat → Reader Word
  | 0, _ => refuse "Missing '))'"
  | limit + 1, depth => do
    let parts ← g.parts .arithmetic
    let go := fun (c : Char) (depth : Nat) => do
      return parts ++ .quoted [c] :: (← readArithmetic g limit depth)
    match ← take with
    | none => refuse "Missing '))'"
    | some '(' => go '(' (depth + 1)
    | some _ =>
      if depth > 0 then go ')' (depth - 1)
      else if ← accept ')' then return parts
      else go ')' 0

/-- Reads commands up to a closing parenthesis. -/
def readSubstitution (g : Grammar) (readClose : Reader Unit) : Reader Command := do
  let awaited := (← get).awaited
  modify fun r => { r with awaited := [] }
  let body ← g.commands
  readClose
  modify fun r => { r with awaited }
  return body

/-- The text of a command substitution in backquotes, whose backslashes may stand before some
characters. -/
def readBackquoted (p : Place) : Nat → Reader (List Char)
  | 0 => return []
  | limit + 1 => do
    match ← (do joinLines; take) with
    | none => refuse "EOF in backquote substitution"
    | some '\x60' => return []
    | some '\\' =>
      match ← take with
      | none => refuse "EOF in backquote substitution"
      | some c =>
        let rest ← readBackquoted p limit
        if c ∈ ['\\', '\x60', '$'] || (p.quotes && c == '"') then return c :: rest
        return '\\' :: c :: rest
    | some c => return c :: (← readBackquoted p limit)

/-- Reads a text as commands of its own. -/
def readInside (g : Grammar) (text : List Char) : Reader Command := do
  let outer ← get
  set { outer with rest := text, line := 1, held := false, awaited := [] }
  let body ← g.commands
  modify fun inner => { outer with documents := inner.documents, count := inner.count }
  return body

/-- What follows a dollar sign. -/
def readDollar (g : Grammar) (readClose : Reader Unit) (p : Place) : Reader Part := do
  match ← peekJoined with
  | none => return p.literal '$'
  | some c =>
    if c = '(' then
      discard take
      if ← accept '(' then
        return .arithmetic (joinParts (← readArithmetic g (← stepsLeft) 0)) p.quotes
      return .output (← readSubstitution g readClose) p.quotes
    else if c = '\x7b' then
      discard take
      readParameter g p
    else if startsName c then
      let name ← takeWhile inName (← stepsLeft)
      return .parameter (String.ofList name) .value [] p.quotes
    else if isSpecialParameter c then
      discard take
      return .parameter (String.singleton c) .value [] p.quotes
    else return p.literal '$'

/-- The next part of a word, unless its place ends here. -/
def readPart (g : Grammar) (readClose : Reader Unit) (p : Place) : Reader (Option Part) := do
  match ← peek with
  | none => return none
  | some c =>
    let ends := match p with
      | .bare => endsWord c
      | .braced | .bracedDouble => c == '\x7d'
      | .double => c == '"'
      | .document => false
      | .arithmetic => c == '(' || c == ')'
    if ends then return none
    discard take
    match c with
    | '\\' => some <$> readEscaped p
    | '$' => some <$> readDollar g readClose p
    | '\x60' =>
      let text ← readBackquoted p (← stepsLeft)
      return some (.output (← readInside g text) p.quotes)
    | '"' =>
      if p ∈ [.document, .arithmetic] then return some (p.literal '"')
      some <$> readDouble g
    | '\'' =>
      if p.quotes then return some (p.literal '\'')
      match ← takeUntil '\'' with
      | some text => return some (.quoted text)
      | none => refuse "Unterminated quoted string"
    | c => return some (p.literal c)

/-- The parts from here to where the place ends. -/
def readParts (g : Grammar) (readClose : Reader Unit) (p : Place) : Reader Word := do
  return joinParts (← many (readPart g readClose p) (← stepsLeft))

end ImageForge.Shell
