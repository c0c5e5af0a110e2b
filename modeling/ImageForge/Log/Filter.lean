import ImageForge.Log
import ImageForge.Regular.Expression
/-!
Which log entries are shown. A filter is a list of directives, separated by commas: a level, or the
beginning of a target with a level for it. Of the directives that fit an entry the most specific one
decides, and an entry that none fits is not shown.
-/

namespace ImageForge.Log

/-- A directive: entries whose target begins in some way and that have all of some fields are shown up
to a verbosity. One that speaks of spans fits no entry, since there are none. -/
structure Directive where
  target : Option String := none
  fields : List String := []
  verbosity : Nat := 5
  ofSpans : Bool := false
  deriving DecidableEq, Repr

/-- The verbosity that a level writes: its name in any case, or a number from 0 to 5. -/
def levelValue? (text : String) : Option Nat :=
  let digits := match text.toList with
    | '+' :: ds => ds
    | ds => ds
  if !digits.isEmpty && digits.all Char.isDigit then
    let n := digits.foldl (fun n c => n * 10 + (c.toNat - '0'.toNat)) 0
    if n ≤ 5 then some n else none
  else match text.map Char.toLower with
    | "off" => some 0
    | "error" => some 1
    | "warn" => some 2
    | "info" => some 3
    | "debug" => some 4
    | "trace" => some 5
    | _ => none

/-- Where the reading of a directive stands; parts that are open are known by where they begin. -/
inductive Reading
  | start
  | word (first : Nat)
  | span (first : Nat)
  | field (first : Nat)
  | fields
  | target
  | level (first : Nat)
  deriving DecidableEq, Repr

/-- What is left of some characters behind their first bytes. -/
def dropBytes : Nat → List Char → List Char
  | 0, cs => cs
  | _, [] => []
  | n, c :: cs => dropBytes (n - c.utf8Size) cs

/-- The characters that the first bytes write. -/
def takeBytes : Nat → List Char → List Char
  | 0, _ => []
  | _, [] => []
  | n, c :: cs => c :: takeBytes (n - c.utf8Size) cs

/-- The characters from one place up to another. -/
def slice (cs : List Char) (first last : Nat) : String :=
  String.ofList (takeBytes (last - first) (dropBytes first cs))

/-- Whether some characters write a number: digits with a point and an exponent, infinity, or no
number at all, with a sign or without. -/
def isNumeral (cs : List Char) : Bool :=
  let unsigned := match cs with
    | '+' :: cs | '-' :: cs => cs
    | cs => cs
  let isExponent := fun (cs : List Char) => match cs with
    | [] => true
    | e :: '+' :: cs | e :: '-' :: cs => e.toLower == 'e' && !cs.isEmpty && cs.all Char.isDigit
    | e :: cs => e.toLower == 'e' && !cs.isEmpty && cs.all Char.isDigit
  let whole := unsigned.takeWhile Char.isDigit
  let (fraction, rest) := match unsigned.drop whole.length with
    | '.' :: cs => (cs.takeWhile Char.isDigit, cs.dropWhile Char.isDigit)
    | cs => ([], cs)
  String.ofList (unsigned.map Char.toLower) ∈ ["inf", "infinity", "nan"] ||
    (!(whole ++ fraction).isEmpty && isExponent rest)

/-- A condition on one field: its name, or a name and a value, which is a number or an expression. Only
one that asks for a value speaks of spans alone. -/
def Directive.withField (d : Directive) (text : String) : Option Directive :=
  match Text.pieces '=' text.toList with
  | [name] => if name.isEmpty then none else some { d with fields := d.fields ++ [String.ofList name] }
  | _ :: value :: _ =>
    if isNumeral value || Regular.isExpression (String.ofList value) then
      some { d with ofSpans := true }
    else none
  | [] => none

/-- The start of a directive may be a letter or a number of any script, or one of three signs; a
bracket opens a span. -/
def canStart (c : Char) : Bool := c == '-' || c == ':' || c == '_' || Text.isAlphanumeric c

/-- One character at a place; `whole` is the text of the directive with the blanks around it. -/
def Directive.step (whole : List Char) (d : Directive) (s : Reading) (place : Nat) (c : Char) :
    Option (Directive × Reading) :=
  match s, c with
  | .start, '[' => some (d, .span (place + 1))
  | .start, c => if canStart c then some (d, .word place) else none
  | .word first, '=' => some ({ d with target := slice whole first place }, .level (place + 1))
  | .word first, '[' => some ({ d with target := slice whole first place }, .span (place + 1))
  | .word first, _ => some (d, .word first)
  | .span _, ']' => some ({ d with ofSpans := true }, .target)
  | .span first, '\x7b' =>
    some ({ d with ofSpans := d.ofSpans || first < place }, .field (place + 1))
  | .span first, _ => some (d, .span first)
  | .field first, '\x7d' => (d.withField (slice whole first place)).map (·, .fields)
  | .field first, _ => some (d, .field first)
  | .fields, ']' => some (d, .target)
  | .target, '=' => some (d, .level (place + 1))
  | .level first, _ => some (d, .level first)
  | .fields, _ | .target, _ => none

/-- Reads the characters from a place on. -/
def Directive.readFrom (whole : List Char) (d : Directive) (s : Reading) (place : Nat) :
    List Char → Option (Directive × Reading)
  | [] => some (d, s)
  | c :: cs => do
    let (d, s) ← d.step whole s place c
    readFrom whole d s (place + c.utf8Size) cs

/-- The directive that a text writes. Places are counted in bytes after the blanks in front and looked
up in the whole text, so a text with such blanks means what its shifted parts mean. -/
def Directive.parse? (text : String) : Option Directive := do
  let whole := text.toList
  let (d, s) ← Directive.readFrom whole {} .start 0 (Text.strip Text.isBlank whole)
  match s with
  | .word first =>
    let word := String.ofList (dropBytes first whole)
    match levelValue? word with
    | some v => some { d with verbosity := v }
    | none => some { d with target := word }
  | .level first =>
    let level := String.ofList (dropBytes first whole)
    if level.isEmpty then some d else (levelValue? level).map fun v => { d with verbosity := v }
  | .target => some d
  | _ => none

/-- Whether a directive has anything to say about an entry. -/
def Directive.fits (d : Directive) (e : LogEntry) : Bool :=
  let names := "message" :: e.fields.map (·.1)
  !d.ofSpans && (d.target.getD "").toList.isPrefixOf e.target.toList && d.fields.all (· ∈ names)

/-- What makes a directive specific: a target, the longer the better, and then its fields. -/
def Directive.rank (d : Directive) : Nat × Nat :=
  ((d.target.map (·.utf8ByteSize + 1)).getD 0, d.fields.length)

/-- Whether a later directive takes precedence over an earlier one. -/
def Directive.beats (later earlier : Directive) : Bool :=
  let (a, b) := (later.rank, earlier.rank)
  b.1 < a.1 || (a.1 == b.1 && (b.2 < a.2 || (a.2 == b.2 && !decide (later.fields < earlier.fields))))

abbrev Filter := List Directive

namespace Filter

/-- The filter that a text writes, if all of its directives can be read; empty ones do not count. -/
def parse? (text : String) : Option Filter :=
  ((Text.splitAt ',' text).filter (!·.isEmpty)).mapM Directive.parse?

/-- The variable that holds the filter. -/
def variableName : String := "RUST_LOG"

/-- The filter of the environment. Without a readable one entries are shown from `info` on. -/
def read (lookup : String → Option String) : Filter :=
  ((lookup variableName).bind parse?).getD [{ verbosity := LogLevel.info.verbosity }]

/-- The directive that decides about an entry. -/
def decisive? (f : Filter) (e : LogEntry) : Option Directive :=
  (f.filter (·.fits e)).foldl (fun best d => match best with
    | none => some d
    | some b => if d.beats b then some d else some b) none

/-- Whether an entry is shown. -/
def shows (f : Filter) (e : LogEntry) : Bool :=
  match f.decisive? e with
  | none => false
  | some d => e.level.verbosity ≤ d.verbosity

end Filter

end ImageForge.Log
