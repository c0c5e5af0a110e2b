import ImageForge.Shell.TokenReader
/-!
Reading commands. A script is read one complete command at a time, so that what comes before a
syntax error has run when the error is met.
-/

namespace ImageForge.Shell

/-- The words around an assignment, if a word is one. -/
def assignment? (w : Word) : Option (String × Word) :=
  match w with
  | .plain cs :: rest =>
    let name := cs.takeWhile inName
    match cs.drop name.length with
    | '=' :: value =>
      if isName (String.ofList name) then
        some (String.ofList name, if value.isEmpty then rest else .plain value :: rest)
      else none
    | _ => none
  | _ => none

/-- Reads where a redirection goes. -/
def readTarget (g : Grammar) (descriptor : Nat) (kind : RedirectKind) : Reader Redirect := do
  match ← readToken g false false with
  | .word w quoted =>
    match kind with
    | .file opening => return .file descriptor opening w
    | .copy => return .copy descriptor w
    | .document indented =>
      let r ← get
      let number := r.count
      let delimiter := w.flatMap fun
        | .plain cs | .quoted cs => cs
        | .double [.quoted cs] => cs
        | _ => []
      let a : Awaited := ⟨number, delimiter, indented, quoted⟩
      set { r with awaited := r.awaited ++ [a], count := r.count + 1 }
      return .document descriptor number
  | _ => unexpected none

/-- Reads the redirections that follow a command. -/
def readRedirects (g : Grammar) : Reader (List Redirect) := do
  let redirects ← many (do
    match ← readToken g true false with
    | .redirect d kind => return some (← readTarget g d kind)
    | _ =>
      hold
      return none) (← stepsLeft)
  return redirects

inductive ListKind
  /-- The commands of one line. -/
  | line
  /-- At least one command, with newlines anywhere between. -/
  | body
  | optional
  deriving DecidableEq, Repr

/-- Reads commands joined by the signs that order two commands after each other. -/
def readChain (pipeline : Reader Command) (g : Grammar) : Nat → Command → Reader Command
  | 0, first => return first
  | limit + 1, first => do
    let t ← readToken g false false
    if t.is "&&" || t.is "||" then
      discard (readToken g true true)
      hold
      let second ← pipeline
      readChain pipeline g limit (if t.is "&&" then .both first second else .either first second)
    else
      hold
      return first

/-- Reads a list of commands, given those before it in reverse. -/
def readList (chain : Reader Command) (g : Grammar) (kind : ListKind) :
    Nat → List Command → Reader (List Command)
  | 0, before => return before.reverse
  | limit + 1, before => do
    match ← readToken g true (kind ≠ .line) with
    | .newline =>
      readDocuments g
      return before.reverse
    | .finish =>
      readDocuments g
      hold
      return before.reverse
    | t =>
      hold
      if t.closes && (kind = .optional || (kind = .body && !before.isEmpty)) then
        return before.reverse
      let c ← chain
      let t ← readToken g false false
      let before := (if t.is "&" then .background c else c) :: before
      match t with
      | .finish =>
        readDocuments g
        hold
        return before.reverse
      | .newline =>
        hold
        readList chain g kind limit before
      | t =>
        if t.is "&" || t.is ";" then readList chain g kind limit before
        else
          if kind = .line then unexpected none
          hold
          return before.reverse

/-- One command for several. -/
def Command.ofList : List Command → Command
  | [c] => c
  | cs => .sequence cs

/-- Reads a simple command, or a function when parentheses follow its first word. -/
def readSimple (command : Reader Command) (g : Grammar) (line : Nat) : Reader Command := do
  let rec go : Nat → List (String × Word) → List Word → List Redirect → Reader Command
    | 0, assignments, words, redirects =>
      return .simple line assignments.reverse words.reverse redirects.reverse
    | limit + 1, assignments, words, redirects => do
      match ← readToken g false false with
      | .word w _ =>
        match if words.isEmpty then assignment? w else none with
        | some a => go limit (a :: assignments) words redirects
        | none => go limit assignments (w :: words) redirects
      | .redirect d kind =>
        let r ← readTarget g d kind
        go limit assignments words (r :: redirects)
      | t =>
        match words with
        | [w] =>
          if t.is "(" && assignments.isEmpty && redirects.isEmpty then
            require g (.sign ")")
            match plainText? w with
            | some name =>
              if !isName name || name ∈ specialBuiltins then refuse "Bad function name"
              discard (readToken g true true)
              hold
              let line := (← get).line
              return .function line name (← command)
            | none => refuse "Bad function name"
          else
            hold
            go 0 assignments words redirects
        | _ =>
          hold
          go 0 assignments words redirects
  go (← stepsLeft) [] [] []

/-- Reads the branches of a conditional after its keyword. -/
def readBranches (body : Reader Command) (g : Grammar) : Nat → Reader Command
  | 0 => return .sequence []
  | limit + 1 => do
    let test ← body
    require g (.keyword "then")
    let first ← body
    let t ← readToken g false false
    if t.is "elif" then return .conditional test first (← readBranches body g limit)
    if t.is "else" then return .conditional test first (← body)
    hold
    return .conditional test first (.sequence [])

/-- The words that stand for all arguments. -/
def everyArgument : List Word := [[.double [.parameter "@" .value [] true]]]

/-- Reads a loop over words after its keyword. -/
def readEach (body : Reader Command) (g : Grammar) (line : Nat) : Reader Command := do
  let name ← match ← readToken g false false with
    | .word w false => pure ((plainText? w).filter isName)
    | _ => pure none
  match name with
  | none => refuse "Bad for loop variable"
  | some name =>
    let t ← readToken g true true
    let words ←
      if t.is "in" then
        let words ← many (do
          match ← readToken g false false with
          | .word w _ => return some w
          | _ => return none) (← stepsLeft)
        match (← get).last with
        | .newline => pure ()
        | t => if !t.is ";" then unexpected none
        pure words
      else
        if !t.is ";" then hold
        pure everyArgument
    discard (readToken g true true)
    hold
    require g (.keyword "do")
    return .each line name words (← body)

/-- A token as a pattern. -/
def Token.pattern : Token → Word
  | .word w _ => w
  | .keyword k => [.plain k.toList]
  | _ => []

/-- Reads the patterns of an arm, the first of which has been read. -/
def readPatterns (g : Grammar) : Nat → Token → Reader (List Word)
  | 0, _ => return []
  | limit + 1, first => do
    let t ← readToken g false false
    if t.is "|" then
      let next ← readToken g false false
      return first.pattern :: (← readPatterns g limit next)
    if !t.is ")" then unexpected (some (.sign ")"))
    return [first.pattern]

/-- Reads the arms of a choice up to the keyword that ends it. -/
def readArms (optional : Reader Command) (g : Grammar) : Nat → Reader (List (List Word × Command))
  | 0 => return []
  | limit + 1 => do
    let t ← readToken g true true
    if t.is "esac" then return []
    let first ← if t.is "(" then readToken g false false else pure t
    let patterns ← readPatterns g (← stepsLeft) first
    let body ← optional
    let t ← readToken g true true
    if t.is "esac" then return [(patterns, body)]
    if !t.is ";;" then unexpected (some (.sign ";;"))
    return (patterns, body) :: (← readArms optional g limit)

/-- Reads a choice after its keyword. -/
def readChoice (optional : Reader Command) (g : Grammar) (line : Nat) : Reader Command := do
  match ← readToken g false false with
  | .word w _ =>
    let t ← readToken g true true
    if !t.is "in" then unexpected (some (.keyword "in"))
    return .choice line w (← readArms optional g (← stepsLeft))
  | _ => unexpected (some (.word [] false))

/-- Adds the redirections that follow a command. -/
def Command.withRedirects (c : Command) (line : Nat) (redirects : List Redirect) : Command :=
  match c with
  | .subshell line body _ => .subshell line body redirects
  | c => if redirects.isEmpty then c else .redirected line c redirects

/-- Reads a command that is not joined to others. -/
def readCommand (command body optional : Reader Command) (g : Grammar) : Reader Command := do
  let line := (← get).line
  let compound := fun (c : Command) => do return c.withRedirects line (← readRedirects g)
  let closed := fun (c : Command) (t : Token) => do
    require g t
    compound c
  match ← readToken g false false with
  | .word _ _ | .redirect _ _ =>
    hold
    readSimple command g line
  | .keyword "if" => closed (← readBranches body g (← stepsLeft)) (.keyword "fi")
  | .keyword "while" => repetition true line closed
  | .keyword "until" => repetition false line closed
  | .keyword "for" => closed (← readEach body g line) (.keyword "done")
  | .keyword "case" => compound (← readChoice optional g line)
  | .keyword "\x7b" => closed (← body) (.keyword "\x7d")
  | .sign "(" => closed (.subshell line (← body) []) (.sign ")")
  | _ => unexpected none
where
  repetition (expected : Bool) (_line : Nat) (closed : Command → Token → Reader Command) :
      Reader Command := do
    let test ← body
    require g (.keyword "do")
    closed (.loop expected test (← body)) (.keyword "done")

/-- Reads commands each of which feeds the next, any of which may be negated as a whole. -/
def readPipeline (command : Reader Command) (g : Grammar) : Reader Command := do
  let t ← readToken g false false
  let negated := t.is "!"
  if negated then discard (readToken g true false)
  hold
  let first ← command
  let others ← many (do
    let t ← readToken g false false
    if t.is "|" then
      discard (readToken g true true)
      hold
      return some (← command)
    hold
    return none) (← stepsLeft)
  let c := if others.isEmpty then first else .pipeline (first :: others)
  return if negated then .negated c else c

/-- The readers at some depth of nesting; each level of nesting takes characters of its own. -/
structure Readers where
  grammar : Grammar
  command : Reader Command

/-- The readers for a depth of nesting. -/
def readers : Nat → Readers
  | 0 => ⟨⟨fun _ => refuse "", refuse ""⟩, refuse ""⟩
  | depth + 1 =>
    let g : Grammar :=
      ⟨fun p r => readParts (readers depth).grammar (readClose (readers depth).grammar) p r,
        fun r => list .optional depth r⟩
    ⟨g, fun r => readCommand (readers depth).command (list .body depth) (list .optional depth) g r⟩
where
  list (kind : ListKind) (depth : Nat) : Reader Command := do
    let inner := readers depth
    let pipeline := readPipeline inner.command inner.grammar
    let chain := do readChain pipeline inner.grammar (← stepsLeft) (← pipeline)
    return .ofList (← readList chain inner.grammar kind (← stepsLeft) [])

/-- Reads the next complete command, which is nothing on an empty line, and whether the script ends
with it; `none` when there is none. -/
def readComplete : Reader (Option (Option Command × Bool)) := do
  let rs := readers (2 * (← stepsLeft) + 8)
  let pipeline := readPipeline rs.command rs.grammar
  let chain := do readChain pipeline rs.grammar (← stepsLeft) (← pipeline)
  let cs ← readList chain rs.grammar .line (← stepsLeft) []
  let ends := match (← get).last with
    | .finish => true
    | _ => false
  if cs.isEmpty then return if ends then none else some (none, false)
  return some (some (.ofList cs), ends)

end ImageForge.Shell
