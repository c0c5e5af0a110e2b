import ImageForge.Shell.Arithmetic
/-!
Conditions on texts, numbers and files, as `test` takes them: a list of words that is read from the
front.
-/

namespace ImageForge.Shell

inductive FileKind
  | directory
  | device
  | regular
  deriving DecidableEq, Repr

/-- What conditions ask of the world: the kind of a file, and whether a descriptor is a terminal,
which none is. -/
structure World where
  kind? : String → Option FileKind

/-- Operators with one operand. -/
def unaryOperators : List String :=
  ["-b", "-c", "-d", "-e", "-f", "-g", "-h", "-k", "-n", "-p", "-r", "-s", "-t", "-u", "-w", "-x", "-z",
    "-G", "-L", "-O", "-S"]

/-- Operators with an operand on either side. -/
def binaryOperators : List String :=
  ["=", "!=", "<", ">", "-eq", "-ne", "-ge", "-gt", "-le", "-lt", "-nt", "-ot", "-ef"]

inductive ConditionLexeme
  | unary (name : String)
  | binary (name : String)
  | not
  | and
  | or
  | opening
  | closing
  | operand
  | finish
  deriving DecidableEq, Repr

/-- Why a condition cannot be decided. -/
abbrev ConditionFault := String

/-- Whether a word that looks like an operator is an operand, by the words after it. -/
def standsAlone : List String → Bool
  | [] => true
  | [_] => false
  | op :: _ => op ∈ binaryOperators

/-- What the first word is. -/
def conditionLexeme : List String → ConditionLexeme
  | [] => .finish
  | w :: rest =>
    if w ∈ unaryOperators then (if standsAlone rest then .operand else .unary w)
    else if w ∈ binaryOperators then .binary w
    else match w with
      | "!" => .not
      | "-a" => .and
      | "-o" => .or
      | "(" => if rest.isEmpty then .operand else .opening
      | ")" => .closing
      | _ => .operand

/-- The integer that an operand stands for. -/
def conditionInteger (text : String) : Except ConditionFault Int :=
  let fault := .error ("Illegal number: " ++ text)
  let value := fun (sign : Int) (cs : List Char) =>
    match cs with
    | c :: _ =>
      if !c.isDigit then fault
      else
        let (n, rest) := readDigits 10 0 cs
        if rest.all isSpaceChar && saturate (sign * n) = sign * n then .ok (sign * (n : Int)) else fault
    | [] => fault
  match text.toList.dropWhile isSpaceChar with
  | '-' :: cs => value (-1) cs
  | '+' :: cs => value 1 cs
  | cs => value 1 cs

def World.unary (world : World) (name operand : String) : Except ConditionFault Bool :=
  let kind := world.kind? operand
  match name with
  | "-n" => .ok (!operand.isEmpty)
  | "-z" => .ok operand.isEmpty
  | "-t" => do
    discard (conditionInteger operand)
    .ok false
  | "-d" => .ok (kind = some .directory)
  | "-f" => .ok (kind = some .regular)
  | "-c" => .ok (kind = some .device)
  | "-e" | "-r" | "-w" | "-O" | "-G" => .ok kind.isSome
  | "-s" => .ok (kind = some .directory || kind = some .regular)
  | "-x" => .ok (kind = some .directory)
  | _ => .ok false

def binaryCondition (name a b : String) : Except ConditionFault Bool :=
  let numbers := fun (f : Int → Int → Bool) => do
    let a ← conditionInteger a
    let b ← conditionInteger b
    .ok (f a b)
  match name with
  | "=" => .ok (a = b)
  | "!=" => .ok (a ≠ b)
  | "<" => .ok (decide (a < b))
  | ">" => .ok (decide (b < a))
  | "-eq" => numbers (· == ·)
  | "-ne" => numbers (· != ·)
  | "-ge" => numbers (decide <| · ≥ ·)
  | "-gt" => numbers (decide <| · > ·)
  | "-le" => numbers (decide <| · ≤ ·)
  | "-lt" => numbers (decide <| · < ·)
  | _ => .ok false

/-- The value of a condition, and the words from its last one on. -/
abbrev Decided := Except ConditionFault (Bool × List String)

mutual

/-- Decides a condition without operators that join, whose first word is `l`. -/
def decidePrimary (world : World) : Nat → ConditionLexeme → List String → Decided
  | 0, _, ws => .ok (false, ws)
  | depth + 1, l, ws =>
    match l with
    | .finish => .ok (false, ws)
    | .opening => do
      let ws := ws.tail
      let inner := conditionLexeme ws
      if inner = .closing then return (false, ws)
      let (value, ws) ← decideAny world depth inner ws
      let ws := ws.tail
      if conditionLexeme ws ≠ .closing then .error "closing paren expected"
      .ok (value, ws)
    | .unary name =>
      match ws.tail with
      | [] => .error (name ++ ": argument expected")
      | operand :: rest => do
        let value ← world.unary name operand
        .ok (value, operand :: rest)
    | _ =>
      match conditionLexeme ws.tail with
      | .binary name =>
        match ws.tail.tail with
        | [] => .error (name ++ ": argument expected")
        | b :: rest => do
          let value ← binaryCondition name (ws.headD "") b
          .ok (value, b :: rest)
      | _ => .ok (!(ws.headD "").isEmpty, ws)

/-- Decides a condition that may be negated. -/
def decideNegated (world : World) : Nat → ConditionLexeme → List String → Decided
  | 0, _, ws => .ok (false, ws)
  | depth + 1, l, ws =>
    match l with
    | .not => do
      let next := conditionLexeme ws.tail
      let ws := if next = .finish then ws else ws.tail
      let (value, ws) ← decideNegated world depth next ws
      .ok (!value, ws)
    | l => decidePrimary world depth l ws

/-- Decides whether all of some conditions hold. -/
def decideAll (world : World) : Nat → ConditionLexeme → List String → Decided
  | 0, _, ws => .ok (false, ws)
  | depth + 1, l, ws => do
    let (value, ws) ← decideNegated world depth l ws
    if conditionLexeme ws.tail = .and then
      let ws := ws.tail.tail
      let (more, ws) ← decideAll world depth (conditionLexeme ws) ws
      .ok (value && more, ws)
    else .ok (value, ws)

/-- Decides whether any of some conditions holds. -/
def decideAny (world : World) : Nat → ConditionLexeme → List String → Decided
  | 0, _, ws => .ok (false, ws)
  | depth + 1, l, ws => do
    let (value, ws) ← decideAll world depth l ws
    if conditionLexeme ws.tail = .or then
      let ws := ws.tail.tail
      let (more, ws) ← decideAny world depth (conditionLexeme ws) ws
      .ok (value || more, ws)
    else .ok (value, ws)

end

/-- Decides a condition by all of its words. -/
def World.decideWords (world : World) (l : ConditionLexeme) (ws : List String) :
    Except ConditionFault Bool := do
  let (value, rest) ← decideAny world (4 * ws.length + 4) l ws
  match rest with
  | w :: _ :: _ => .error ((if w.isEmpty then "" else w ++ ": ") ++ "unexpected operator")
  | _ => .ok value

/-- Decides a condition. A list of few words is read by how many there are. -/
def World.decide (world : World) (ws : List String) : Except ConditionFault Bool :=
  go (ws.length + 1) ws false
where
  go : Nat → List String → Bool → Except ConditionFault Bool
    | 0, _, _ => .ok false
    | limit + 1, ws, negated => do
      let plain := fun (ws : List String) => do
        return (← world.decideWords (conditionLexeme ws) ws) != negated
      match ws with
      | [] => return negated
      | [a, op, b] =>
        if op ∈ binaryOperators then return (← world.decideWords .operand [a, op, b]) != negated
        grouped limit ws negated plain
      | [_, _, _, _] => grouped limit ws negated plain
      | ws => plain ws
  grouped (limit : Nat) (ws : List String) (negated : Bool)
      (plain : List String → Except ConditionFault Bool) : Except ConditionFault Bool :=
    if ws.head? = some "(" && ws.getLast? = some ")" then plain ws.tail.dropLast
    else if ws.head? = some "!" then go limit ws.tail (!negated)
    else plain ws

end ImageForge.Shell
