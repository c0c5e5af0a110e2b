import ImageForge.Shell.Field
import ImageForge.Shell.Process
/-!
The expansion of words: parameters, command substitutions and arithmetic. What stands in a word's place
is a sequence of pieces, which a command takes as fields and an assignment as one text.
-/

namespace ImageForge.Shell

/-- What commands and words need from each other, at some depth of nesting. -/
structure Engine where
  /-- Runs a command; when its status is tested, a failure does not end the script. -/
  run : Bool → Command → Script Unit
  /-- Expands parts of a word, where plain text counts as a value if so told. -/
  expand : Bool → Word → Script (List Piece)

namespace Script

/-- The joined arguments are kept apart by the first separator. -/
def joiner : Script (List Char) := return (← separators).take 1

def optionLetters (o : Options) : List Char :=
  (if o.nounset then ['u'] else []) ++ (if o.allexport then ['a'] else []) ++ o.others ++
    (if o.xtrace then ['x'] else []) ++ (if o.noexec then ['n'] else []) ++
    (if o.noglob then ['f'] else []) ++ (if o.errexit then ['e'] else [])

/-- An expanded word as one text. -/
def textOf (ps : List Piece) : Script String := return String.ofList (asText (← joiner) ps)

/-- The value of a parameter that has one. -/
def parameter? (name : String) : Script (Option String) := do
  let c ← context
  match name with
  | "#" => return some (toString c.arguments.length)
  | "?" => return some (toString c.status)
  | "$" => return some (toString c.shell)
  | "!" => return c.lastJob.map toString
  | "-" => return some (String.ofList (optionLetters c.options))
  | "0" => return some c.name
  | "LINENO" => return some (toString c.line)
  | "@" | "*" =>
    return some (String.intercalate (String.ofList (← joiner)) c.arguments)
  | name =>
    match name.toNat? with
    | some n => return c.arguments[n - 1]?
    | none => valueOf? name

/-- The pieces of a parameter's value. -/
def valuePieces (name : String) (value : String) (quoted : Bool) : Script (List Piece) := do
  let c ← context
  let origin : Origin := if quoted then .quoted else .value
  let all := c.arguments.map fun a => pieces origin a.toList
  match name with
  | "@" => return List.intercalate [.boundary quoted] all
  | "*" =>
    if quoted then return List.intercalate (pieces .quoted (← joiner)) all
    return List.intercalate [.boundary false] all
  | _ => return pieces origin value.toList

/-- Complains about a parameter that has no value. -/
def missingParameter {α : Type} (name : String) (message : String) : Script α :=
  fail (name ++ ": " ++ message)

/-- Expands a parameter in one of its uses. -/
def parameterPieces (e : Engine) (name : String) (use : Use) (word : Word) (quoted : Bool) :
    Script (List Piece) := do
  let value ← parameter? name
  let needed : Script String := do
    match value with
    | some v => return v
    | none =>
      if (← context).options.nounset && name ∉ ["@", "*"] then
        missingParameter name "parameter not set"
      return ""
  match use with
  | .invalid => fail "Bad substitution"
  | .value => valuePieces name (← needed) quoted
  | .length =>
    let v ← needed
    return pieces (if quoted then .quoted else .value) (toString v.length).toList
  | .trim atEnd longest =>
    let all ← valuePieces name (← needed) quoted
    let first := all.takeWhile fun
      | .boundary _ => false
      | _ => true
    let pattern := asPattern (← joiner) (← e.expand false word)
    return match matchLength? atEnd longest pattern (asText [] first) with
      | some n => if atEnd then first.take (first.length - n) else first.drop n
      | none => all
  | .alternative kind orNull =>
    let isSet := match value with
      | some v => !(orNull && v.isEmpty)
      | none => false
    match kind with
    | .default => if isSet then valuePieces name (value.getD "") quoted else e.expand (!quoted) word
    | .replace => if isSet then e.expand (!quoted) word else return []
    | .assign =>
      if isSet then valuePieces name (value.getD "") quoted
      else
        let new ← textOf (← e.expand (!quoted) word)
        if !isName name then fail (name ++ ": bad variable name")
        assign name new
        valuePieces name new quoted
    | .complain =>
      if isSet then valuePieces name (value.getD "") quoted
      else
        let text ← textOf (← e.expand (!quoted) word)
        missingParameter name
          (if word.isEmpty then "parameter not set" ++ (if orNull then " or null" else "")
          else text)

/-- The value of an arithmetic expression. -/
def arithmeticValue (text : List Char) : Script Int := do
  let c ← context
  let value := fun (name : String) => ((c.bindings.lookup name).bind (·.value)).getD ""
  match arithmetic value text with
  | .ok (n, assigned) =>
    for (name, n) in assigned do
      assign name (toString n)
    return n
  | .error (.malformed reason) =>
    fail ("arithmetic expression: " ++ reason ++ ": \"" ++ String.ofList text ++ "\"")
  | .error (.notNumber text) => fail ("Illegal number: " ++ text)

/-- What a command prints, without the newlines at its end. -/
def outputOf (e : Engine) (finish : Script Unit) (body : Command) : Script (List Char) := do
  let n ← newChannel
  let status ← inChild (fun c => { c with descriptors := putAt 1 (.channel n) c.descriptors })
    (do e.run false body) finish
  modifyContext ({ · with substitutionStatus := status })
  let text := (← drain n).filter (· ≠ Char.ofNat 0)
  return (text.reverse.dropWhile (· == '\n')).reverse

/-- The home directory in the place of a tilde that begins a word; the tilde is followed by a slash or
by nothing, and `ends` says that the word has no other part. -/
def tildePieces (cs : List Char) (inner ends : Bool) : Script (List Piece) := do
  let origin : Origin := if inner then .value else .literal
  match cs with
  | '~' :: rest =>
    match ← valueOf? "HOME" with
    | some home =>
      if (ends && rest.isEmpty) || rest.head? = some '/' then
        return pieces .quoted home.toList ++ pieces origin rest
      return pieces origin cs
    | none => return pieces origin cs
  | cs => return pieces origin cs

/-- Expands one part of a word. -/
def partPieces (e : Engine) (finish : Script Unit) (inner : Bool) (p : Part) :
    Script (List Piece) := do
  match p with
  | .plain cs => return pieces (if inner then .value else .literal) cs
  | .quoted cs => return if cs.isEmpty then [.mark] else pieces .quoted cs
  | .double [.parameter "@" .value [] _] =>
    if (← context).arguments.isEmpty then return []
    return .mark :: (← parameterPieces e "@" .value [] true)
  | .double parts => return .mark :: (← e.expand false parts)
  | .parameter name use word quoted => parameterPieces e name use word quoted
  | .output body quoted =>
    return pieces (if quoted then .quoted else .value) (← outputOf e finish body)
  | .arithmetic expression quoted =>
    let n ← arithmeticValue (← textOf (← e.expand false expression)).toList
    return pieces (if quoted then .quoted else .value) (toString n).toList

/-- Expands the parts of a word. -/
def expandParts (e : Engine) (finish : Script Unit) (inner : Bool) (w : Word) :
    Script (List Piece) := do
  match w with
  | .plain cs :: rest =>
    let first ← tildePieces cs inner rest.isEmpty
    return first ++ (← rest.mapM (partPieces e finish inner)).flatten
  | w => return (← w.mapM (partPieces e finish inner)).flatten

/-- The fields of words. -/
def expandFields (e : Engine) (ws : List Word) : Script (List String) := do
  let expanded ← ws.mapM fun w => do
    let ps ← e.expand false w
    return (fields (← separators) ps).map fun f => String.ofList (f.map (·.char))
  return expanded.flatten

/-- A word as one text. -/
def expandText (e : Engine) (w : Word) : Script String := do
  textOf (← e.expand false w)

/-- A word as a pattern. -/
def expandPattern (e : Engine) (w : Word) : Script (List PatternChar) := do
  return asPattern (← joiner) (← e.expand false w)

end Script

end ImageForge.Shell
