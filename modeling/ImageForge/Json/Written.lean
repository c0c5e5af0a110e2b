import ImageForge.Json.Lexer
/-!
Documents as they are written: numbers by their digits, and the entries of an object in their order,
with every repetition. What such a document means is a question of its own: as a value, each number
and text must have a value, containers are nested to some depth at most, and of two entries for one
key the later counts.
-/

namespace ImageForge

/-- A document as it is written. A text or a key without a value names half a pair of codes. -/
inductive Written
  | null
  | bool (b : Bool)
  | num (t : Json.NumberText)
  | str (s : Option String)
  | arr (items : List Written)
  | obj (entries : List (Option String × Written))
  deriving Repr, Inhabited

namespace Written

open Json (Token)

/-- A container that is not closed yet; a pending key waits for its value. -/
inductive Frame
  | arr (reversed : List Written)
  | obj (reversed : List (Option String × Written)) (key : Option (Option String))
  deriving Repr, Inhabited

inductive Expect
  | value
  | valueOrClose
  | key
  | keyOrClose
  | colon
  | commaOrClose
  | nothing (v : Written)
  deriving Repr, Inhabited

/-- The reader of lexemes: the open containers, the innermost first, and what may come next. -/
structure ReadState where
  stack : List Frame
  expect : Expect
  deriving Repr, Inhabited

namespace ReadState

/-- A complete value in its place: the whole document, or part of the innermost container. -/
def put (v : Written) : List Frame → Option ReadState
  | [] => some ⟨[], .nothing v⟩
  | .arr items :: rest => some ⟨.arr (v :: items) :: rest, .commaOrClose⟩
  | .obj entries (some k) :: rest => some ⟨.obj ((k, v) :: entries) none :: rest, .commaOrClose⟩
  | .obj _ none :: _ => none

/-- A lexeme where a value may stand. -/
def beginValue (stack : List Frame) : Token → Option ReadState
  | .null => put .null stack
  | .bool b => put (.bool b) stack
  | .number t => put (.num t) stack
  | .text s => put (.str s) stack
  | .openArr => some ⟨.arr [] :: stack, .valueOrClose⟩
  | .openObj => some ⟨.obj [] none :: stack, .keyOrClose⟩
  | _ => none

/-- Closes the innermost container. -/
def close : List Frame → Token → Option ReadState
  | .arr items :: rest, .closeArr => put (.arr items.reverse) rest
  | .obj entries none :: rest, .closeObj => put (.obj entries.reverse) rest
  | _, _ => none

/-- A lexeme where a key may stand. -/
def takeKey : List Frame → Token → Option ReadState
  | .obj entries none :: rest, .text k => some ⟨.obj entries (some k) :: rest, .colon⟩
  | _, _ => none

def step (s : ReadState) (t : Token) : Option ReadState :=
  match s.expect with
  | .value => beginValue s.stack t
  | .valueOrClose => (close s.stack t).orElse fun _ => beginValue s.stack t
  | .key => takeKey s.stack t
  | .keyOrClose => (close s.stack t).orElse fun _ => takeKey s.stack t
  | .colon => match t with
    | .colon => some ⟨s.stack, .value⟩
    | _ => none
  | .commaOrClose => match t, s.stack with
    | .comma, .arr _ :: _ => some ⟨s.stack, .value⟩
    | .comma, .obj _ _ :: _ => some ⟨s.stack, .key⟩
    | t, stack => close stack t
  | .nothing _ => none

end ReadState

/-- The document that some lexemes write. -/
def ofTokens? (ts : List Token) : Option Written :=
  match ts.foldlM ReadState.step ⟨[], .value⟩ with
  | some ⟨[], .nothing v⟩ => some v
  | _ => none

/-- The document that a text writes; `none` when it is not exactly one. -/
def parse? (s : String) : Option Written := do ofTokens? (← Json.lex s.toList)

mutual

/-- The value of a document whose containers stand inside one another at most `depth` deep. -/
def value? (depth : Nat) : Written → Option Json
  | .null => some .null
  | .bool b => some (.bool b)
  | .num t => t.value?.map .num
  | .str s => s.map .str
  | .arr items =>
    if depth = 0 then none else (itemValues? (depth - 1) items).map .arr
  | .obj entries =>
    if depth = 0 then none else (entryValues? (depth - 1) entries).map Json.ofEntries

def itemValues? (depth : Nat) : List Written → Option (List Json)
  | [] => some []
  | v :: rest => do
    let v ← value? depth v
    let rest ← itemValues? depth rest
    some (v :: rest)

def entryValues? (depth : Nat) : List (Option String × Written) → Option (List (String × Json))
  | [] => some []
  | (k, v) :: rest => do
    let k ← k
    let v ← value? depth v
    let rest ← entryValues? depth rest
    some ((k, v) :: rest)

end

end Written

end ImageForge
