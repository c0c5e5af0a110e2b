import ImageForge.Shell.Pattern
/-!
Expanded words as pieces, and the fields they are split into. Only what comes from the value of a
parameter or from a command is split; a quoted character stands for itself in patterns.
-/

namespace ImageForge.Shell

/-- Where a character of an expanded word comes from. -/
inductive Origin
  | literal
  | quoted
  | value
  deriving DecidableEq, Repr

inductive Piece
  | char (c : Char) (origin : Origin)
  /-- Quotes that may hold nothing, and still make a field. -/
  | mark
  /-- Where one argument ends and the next begins; both are fields if they are quoted. -/
  | boundary (quoted : Bool)
  deriving DecidableEq, Repr

/-- A text with one origin. -/
def pieces (origin : Origin) (cs : List Char) : List Piece := cs.map (.char · origin)

/-- The splitting of a word so far: the fields that are complete and the characters of the next one,
both in reverse. -/
structure Splitting where
  done : List (List PatternChar) := []
  current : List PatternChar := []
  /-- Whether the next field has begun. -/
  begun : Bool := false
  /-- Whether a blank has ended the last field, so that one sign after it ends no other. -/
  afterBlank : Bool := false
  deriving DecidableEq, Repr

namespace Splitting

def close (s : Splitting) : Splitting :=
  { done := s.current.reverse :: s.done }

def add (s : Splitting) (c : PatternChar) : Splitting :=
  { s with current := c :: s.current, begun := true, afterBlank := false }

def isBlankSeparator (c : Char) : Bool := c == ' ' || c == '\t' || c == '\n'

def step (separators : List Char) (s : Splitting) (p : Piece) : Splitting :=
  match p with
  | .mark => { s with begun := true, afterBlank := false }
  | .boundary true => { s.close with begun := true }
  | .boundary false => if s.begun then s.close else s
  | .char c .literal => s.add ⟨c, true⟩
  | .char c .quoted => s.add ⟨c, false⟩
  | .char c .value =>
    if c ∉ separators then s.add ⟨c, true⟩
    else if isBlankSeparator c then (if s.begun then { s.close with afterBlank := true } else s)
    else if s.begun || !s.afterBlank then s.close
    else { s with afterBlank := false }

end Splitting

/-- The fields of an expanded word. -/
def fields (separators : List Char) (ps : List Piece) : List (List PatternChar) :=
  let s := ps.foldl (Splitting.step separators) {}
  (if s.begun then s.close else s).done.reverse

/-- An expanded word as one pattern, where `joiner` stands between arguments. -/
def asPattern (joiner : List Char) (ps : List Piece) : List PatternChar :=
  ps.flatMap fun
    | .char c .quoted => [⟨c, false⟩]
    | .char c _ => [⟨c, true⟩]
    | .mark => []
    | .boundary _ => joiner.map (⟨·, false⟩)

/-- The characters of an expanded word that is not split. -/
def asText (joiner : List Char) (ps : List Piece) : List Char :=
  (asPattern joiner ps).map (·.char)

end ImageForge.Shell
