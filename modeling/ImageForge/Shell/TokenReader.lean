import ImageForge.Shell.WordReader
/-!
Reading tokens, and the texts that a script gives after the line that asks for them.
-/

namespace ImageForge.Shell

/-- Skips blanks and comments. -/
def skipBlanks : Nat → Reader Unit
  | 0 => return
  | limit + 1 => do
    match ← peekJoined with
    | some ' ' | some '\t' =>
      discard take
      skipBlanks limit
    | some '#' =>
      modify fun r => { r with rest := r.rest.dropWhile (· ≠ '\n') }
      skipBlanks limit
    | _ => return

/-- Whether any part of a word is quoted as such. -/
def isQuoted (w : Word) : Bool :=
  w.any fun
    | .quoted _ | .double _ => true
    | _ => false

/-- What follows the sign that begins a redirection; the descriptor it is for by default, and what it
asks for. -/
def readRedirectKind (sign : Char) : Reader (Nat × RedirectKind) := do
  if sign = '>' then
    if ← accept '>' then return (1, .file .append)
    if ← accept '|' then return (1, .file .write)
    if ← accept '&' then return (1, .copy)
    return (1, .file .write)
  if ← accept '<' then return (0, .document (← accept '-'))
  if ← accept '&' then return (0, .copy)
  if ← accept '>' then return (0, .file .update)
  return (0, .file .read)

/-- Reads a word, or a redirection whose descriptor looks like one. -/
def readWordToken (g : Grammar) : Reader Token := do
  let w ← g.parts .bare
  let quoted := isQuoted w
  let asWord := Token.word w quoted
  match ← peek with
  | some c =>
    if c = '<' || c = '>' then
      match w with
      | [] =>
        discard take
        let (d, kind) ← readRedirectKind c
        return .redirect d kind
      | [.plain [d]] =>
        if d.isDigit then
          discard take
          let (_, kind) ← readRedirectKind c
          return .redirect (d.toNat - '0'.toNat) kind
        return asWord
      | _ => return asWord
    return asWord
  | none => return asWord

/-- Reads a token from the text. -/
def scanToken (g : Grammar) : Reader Token := do
  skipBlanks (← stepsLeft)
  match ← peek with
  | none => return .finish
  | some c =>
    match c with
    | '\n' =>
      discard take
      return .newline
    | '&' | '|' | ';' =>
      discard take
      return .sign (if ← accept c then String.ofList [c, c] else String.singleton c)
    | '(' | ')' =>
      discard take
      return .sign (String.singleton c)
    | _ => readWordToken g

/-- The lines up to one that is the delimiter, or up to the end. A line joined to the one before it
does not count as the delimiter. -/
def documentText (a : Awaited) : Nat → Bool → List Char → List Char × List Char
  | 0, _, cs => ([], cs)
  | limit + 1, joined, cs =>
    let cs := if a.indented then cs.dropWhile (· == '\t') else cs
    let line := cs.takeWhile (· ≠ '\n')
    let rest := cs.drop line.length
    if !joined && line == a.delimiter && !(cs.isEmpty) then ([], rest.drop 1)
    else match rest with
      | [] => (line, [])
      | _ :: rest =>
        let joins := !a.literal && (line.reverse.takeWhile (· == '\\')).length % 2 == 1
        let (text, rest) := documentText a limit joins rest
        (line ++ '\n' :: text, rest)

/-- Reads the texts that are awaited, which begin here. -/
def readDocuments (g : Grammar) : Reader Unit := do
  for a in (← get).awaited do
    let r ← get
    let (text, rest) := documentText a (← stepsLeft) false r.rest
    let line := r.line + (r.rest.take (r.rest.length - rest.length)).count '\n'
    let word ←
      if a.literal then pure [.quoted text]
      else
        set { r with rest := text }
        g.parts .document
    modify fun inner =>
      { r with rest, line, documents := (a.number, word) :: inner.documents, count := inner.count }
  modify fun r => { r with awaited := [] }

/-- Skips newlines, after each of which texts may stand. -/
def skipNewlines (g : Grammar) : Nat → Token → Reader Token
  | 0, t => return t
  | limit + 1, t => do
    match t with
    | .newline =>
      readDocuments g
      skipNewlines g limit (← scanToken g)
    | t => return t

/-- The next token, after newlines if these are skipped, and with keywords told from words if these
are looked for. -/
def readToken (g : Grammar) (keywords newlines : Bool) : Reader Token := do
  let r ← get
  let t ←
    if r.held then
      set { r with held := false }
      pure r.last
    else scanToken g
  let t ← if newlines then skipNewlines g (← stepsLeft) t else pure t
  let t := if keywords then t.asKeyword else t
  modify fun r => { r with last := t }
  return t

/-- Holds back the token read last. -/
def hold : Reader Unit := modify fun r => { r with held := true }

/-- Reads a given token. -/
def require (g : Grammar) (t : Token) : Reader Unit := do
  let got ← readToken g false false
  match t with
  | .keyword text | .sign text => if !got.is text then unexpected (some t)
  | _ => unexpected (some t)

/-- Reads the closing parenthesis of a command substitution. -/
def readClose (g : Grammar) : Reader Unit := require g (.sign ")")

end ImageForge.Shell
