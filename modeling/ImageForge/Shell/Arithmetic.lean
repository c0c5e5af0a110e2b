/-!
Arithmetic expressions over 64-bit integers with sign, whose operations wrap around. An expression is
read as a tree and then evaluated, where variables may be read and assigned.
-/

namespace ImageForge.Shell

/-- The integers wrap around at this many values. -/
def wordValues : Nat := 18446744073709551616

/-- The 64-bit integer with sign that an integer wraps around to. -/
def wrap (n : Int) : Int := n.bmod wordValues

/-- The largest integer. -/
def maxInteger : Int := 9223372036854775807

/-- Keeps an integer between the smallest and the largest. -/
def saturate (n : Int) : Int := max (-maxInteger - 1) (min n maxInteger)

/-- The value of a digit in any base up to 16. -/
def digitValue (c : Char) : Nat :=
  if c.isDigit then c.toNat - '0'.toNat
  else if 'a' ≤ c ∧ c ≤ 'f' then c.toNat - 'a'.toNat + 10
  else if 'A' ≤ c ∧ c ≤ 'F' then c.toNat - 'A'.toNat + 10
  else 16

/-- The number that digits of a base begin a text with, and the rest. -/
def readDigits (base : Nat) (n : Nat) : List Char → Nat × List Char
  | c :: cs => if digitValue c < base then readDigits base (n * base + digitValue c) cs else (n, c :: cs)
  | [] => (n, [])

/-- The number that a text begins with, in a base that its first digits tell, and the rest. -/
def readNatural : List Char → Option (Nat × List Char)
  | '0' :: x :: c :: cs =>
    if (x = 'x' ∨ x = 'X') ∧ digitValue c < 16 then some (readDigits 16 0 (c :: cs))
    else some (readDigits 8 0 ('0' :: x :: c :: cs))
  | '0' :: cs => some (readDigits 8 0 ('0' :: cs))
  | c :: cs => if c.isDigit then some (readDigits 10 0 (c :: cs)) else none
  | [] => none

/-- Characters that may stand around a number. -/
def isSpaceChar (c : Char) : Bool := c == ' ' || (9 ≤ c.toNat && c.toNat ≤ 13)

/-- The integer that a text begins with, after blanks and a sign, and the rest. -/
def readInteger (cs : List Char) : Option (Int × List Char) :=
  match cs.dropWhile isSpaceChar with
  | '-' :: cs => (readNatural cs).map fun (n, rest) => (-(n : Int), rest)
  | '+' :: cs => (readNatural cs).map fun (n, rest) => ((n : Int), rest)
  | cs => (readNatural cs).map fun (n, rest) => ((n : Int), rest)

/-- The value of a variable: an integer, possibly among blanks; nothing counts as zero. -/
def integerOf? (text : String) : Option Int :=
  match readInteger text.toList with
  | some (n, rest) => if rest.all isSpaceChar then some (saturate n) else none
  | none => if text.toList.all isSpaceChar then some 0 else none

inductive ArithmeticToken
  | number (n : Int)
  | name (text : String)
  | sign (text : String)
  | invalid
  deriving DecidableEq, Repr

/-- The signs of expressions, longer ones before those that begin them. -/
def arithmeticSigns : List String :=
  ["<<=", ">>=", "<<", ">>", "<=", ">=", "==", "!=", "&&", "||", "&=", "|=", "^=", "*=", "/=", "%=",
    "+=", "-=", "<", ">", "=", "!", "&", "|", "^", "*", "/", "%", "+", "-", "~", "(", ")", "?", ":"]

/-- The tokens of an expression, within a number of steps. -/
def arithmeticTokens : Nat → List Char → List ArithmeticToken
  | 0, _ => []
  | _, [] => []
  | limit + 1, c :: cs =>
    if c == ' ' || c == '\t' || c == '\n' then arithmeticTokens limit cs
    else match readNatural (c :: cs) with
      | some (n, rest) => .number (saturate n) :: arithmeticTokens limit rest
      | none =>
        if c.isAlpha || c == '_' then
          let name := (c :: cs).takeWhile fun d => d.isAlphanum || d == '_'
          .name (String.ofList name) :: arithmeticTokens limit ((c :: cs).drop name.length)
        else match arithmeticSigns.find? fun s => s.toList.isPrefixOf (c :: cs) with
          | some s => .sign s :: arithmeticTokens limit ((c :: cs).drop s.length)
          | none => [.invalid]

inductive Expression
  | number (n : Int)
  | named (name : String)
  | unary (sign : String) (a : Expression)
  | binary (sign : String) (a b : Expression)
  | conditional (test a b : Expression)
  /-- The sign is that of the operation on the old value, if any. -/
  | assign (name sign : String) (a : Expression)
  /-- Evaluates what has been read before the place where the text is malformed. -/
  | malformed (before : Option Expression) (reason : String)

/-- How tightly a sign binds its operands; a tighter one has a larger number. -/
def binding? : String → Option Nat
  | "||" => some 1
  | "&&" => some 2
  | "|" => some 3
  | "^" => some 4
  | "&" => some 5
  | "==" | "!=" => some 6
  | "<" | "<=" | ">" | ">=" => some 7
  | "<<" | ">>" => some 8
  | "+" | "-" => some 9
  | "*" | "/" | "%" => some 10
  | _ => none

/-- The operation of a sign that assigns. -/
def assignmentSign? : String → Option String
  | "=" => some ""
  | "<<=" => some "<<"
  | ">>=" => some ">>"
  | "&=" => some "&"
  | "|=" => some "|"
  | "^=" => some "^"
  | "*=" => some "*"
  | "/=" => some "/"
  | "%=" => some "%"
  | "+=" => some "+"
  | "-=" => some "-"
  | _ => none

/-- What is wrong with an expression, or with what a variable holds. -/
inductive ArithmeticFault
  | malformed (reason : String)
  | notNumber (text : String)
  deriving DecidableEq, Repr

/-- A tree read from tokens, and the tokens left; none are left after a place that is malformed. -/
abbrev ReadExpression := Expression × List ArithmeticToken

/-- Nothing that can be read stands here. -/
def noOperand : ReadExpression := (.malformed none "expecting primary", [])

mutual

/-- Reads an operand with the signs before it. -/
def readOperand : Nat → List ArithmeticToken → ReadExpression
  | 0, _ => noOperand
  | depth + 1, ts =>
    match ts with
    | .number n :: ts => (.number n, ts)
    | .name v :: ts => (.named v, ts)
    | .sign "(" :: ts =>
      match readAssignment depth ts with
      | (e, .sign ")" :: ts) => (e, ts)
      | (e, _) => (.malformed (some e) "expecting ')'", [])
    | .sign s :: ts =>
      if s ∈ ["+", "-", "!", "~"] then
        let (e, ts) := readOperand depth ts
        (.unary s e, ts)
      else noOperand
    | _ => noOperand

/-- Reads on after an operand, as long as signs follow that bind at least as tightly as `least`. -/
def readBinary : Nat → Nat → Expression → List ArithmeticToken → ReadExpression
  | 0, _, a, ts => (a, ts)
  | depth + 1, least, a, ts =>
    match ts with
    | .sign s :: rest =>
      match binding? s with
      | some n =>
        if n < least then (a, ts)
        else
          let (b, rest) := readOperand depth rest
          let (b, rest) := readBinary depth (n + 1) b rest
          readBinary depth least (.binary s a b) rest
      | none => (a, ts)
    | _ => (a, ts)

/-- Reads an expression without assignment at its top. -/
def readConditional : Nat → List ArithmeticToken → ReadExpression
  | 0, _ => noOperand
  | depth + 1, ts =>
    let (a, ts) := readOperand depth ts
    let (a, ts) := readBinary depth 0 a ts
    match ts with
    | .sign "?" :: ts =>
      match readAssignment depth ts with
      | (b, .sign ":" :: ts) =>
        let (c, ts) := readConditional depth ts
        (.conditional a b c, ts)
      | (b, _) => (.conditional a (.malformed (some b) "expecting ':'") (.malformed (some b) "expecting ':'"), [])
    | ts => (a, ts)

/-- Reads an expression. -/
def readAssignment : Nat → List ArithmeticToken → ReadExpression
  | 0, _ => noOperand
  | depth + 1, ts =>
    match ts with
    | .name v :: .sign s :: rest =>
      match assignmentSign? s with
      | some s =>
        let (e, rest) := readAssignment depth rest
        (.assign v s e, rest)
      | none => readConditional depth ts
    | ts => readConditional depth ts

end

/-- The tree of an expression. -/
def readExpression (text : List Char) : Expression :=
  let ts := arithmeticTokens (text.length + 1) text
  match readAssignment (4 * ts.length + 4) ts with
  | (e, []) => e
  | (e, _) => .malformed (some e) "expecting EOF"

/-- Why an expression is malformed, also where it is not evaluated. -/
def Expression.fault? : Expression → Option String
  | .number _ | .named _ => none
  | .unary _ a | .assign _ _ a => a.fault?
  | .binary _ a b => a.fault? <|> b.fault?
  | .conditional test a b => test.fault? <|> a.fault? <|> b.fault?
  | .malformed none reason => some reason
  | .malformed (some e) reason => e.fault? <|> some reason

/-- Passes over an expression that is not evaluated. -/
def Expression.skip (e : Expression) : Except ArithmeticFault Unit :=
  match e.fault? with
  | some reason => .error (.malformed reason)
  | none => .ok ()

/-- The integer for a truth value. -/
def truth (b : Bool) : Int := if b then 1 else 0

/-- An operation on the bits of two integers. -/
def bitwise (f : BitVec 64 → BitVec 64 → BitVec 64) (a b : Int) : Int :=
  (f (BitVec.ofInt 64 a) (BitVec.ofInt 64 b)).toInt

/-- The value of a binary operation. -/
def operate (sign : String) (a b : Int) : Except ArithmeticFault Int :=
  match sign with
  | "+" => .ok (wrap (a + b))
  | "-" => .ok (wrap (a - b))
  | "*" => .ok (wrap (a * b))
  | "/" => if b = 0 then .error (.malformed "division by zero") else .ok (wrap (a.tdiv b))
  | "%" => if b = 0 then .error (.malformed "division by zero") else .ok (wrap (a.tmod b))
  | "<<" => .ok (bitwise (fun x y => x <<< (y.toNat % 64)) a b)
  | ">>" => .ok (bitwise (fun x y => x.sshiftRight (y.toNat % 64)) a b)
  | "<" => .ok (truth (a < b))
  | "<=" => .ok (truth (a ≤ b))
  | ">" => .ok (truth (b < a))
  | ">=" => .ok (truth (b ≤ a))
  | "==" => .ok (truth (a = b))
  | "!=" => .ok (truth (a ≠ b))
  | "&" => .ok (bitwise (· &&& ·) a b)
  | "^" => .ok (bitwise (· ^^^ ·) a b)
  | "|" => .ok (bitwise (· ||| ·) a b)
  | _ => .ok b

/-- The values that were assigned during an evaluation, the latest first. -/
abbrev Assigned := List (String × Int)

/-- Evaluates an expression over the values of variables. -/
def Expression.evaluate (value : String → String) :
    Expression → StateT Assigned (Except ArithmeticFault) Int
  | .number n => pure n
  | .named name => lookup name
  | .unary sign a => do
    let a ← a.evaluate value
    match sign with
    | "-" => return wrap (-a)
    | "!" => return truth (a = 0)
    | "~" => return wrap (-a - 1)
    | _ => return a
  | .binary "&&" a b => do
    if (← a.evaluate value) = 0 then
      liftM b.skip
      return 0
    return truth ((← b.evaluate value) ≠ 0)
  | .binary "||" a b => do
    if (← a.evaluate value) ≠ 0 then
      liftM b.skip
      return 1
    return truth ((← b.evaluate value) ≠ 0)
  | .binary sign a b => do
    let a ← a.evaluate value
    let b ← b.evaluate value
    liftM (operate sign a b)
  | .conditional test a b => do
    if (← test.evaluate value) ≠ 0 then
      let n ← a.evaluate value
      liftM b.skip
      return n
    else
      liftM a.skip
      b.evaluate value
  | .assign name sign a => do
    let b ← a.evaluate value
    let n ← if sign.isEmpty then pure b else do
      let old ← lookup name
      liftM (operate sign old b)
    modify fun assigned => (name, n) :: assigned
    return n
  | .malformed before reason => do
    match before with
    | some e => discard (e.evaluate value)
    | none => pure ()
    throw (.malformed reason)
where
  lookup (name : String) : StateT Assigned (Except ArithmeticFault) Int := do
    match (← get).lookup name with
    | some n => return n
    | none =>
      match integerOf? (value name) with
      | some n => return n
      | none => throw (.notNumber (value name))

/-- The value of an expression, and what was assigned in it, the first assignment first. -/
def arithmetic (value : String → String) (text : List Char) :
    Except ArithmeticFault (Int × Assigned) := do
  let (n, assigned) ← (readExpression text).evaluate value |>.run []
  return (n, assigned.reverse)

end ImageForge.Shell
