import ImageForge.Shell.Arithmetic
/-!
Printing by a format: backslash escapes, and conversions of arguments to text or to numbers. A format
is used again until no argument is left.
-/

namespace ImageForge.Shell

/-- The character of a small number. -/
def charOf (n : Nat) : Char := Char.ofNat (n % 256)

/-- The character that a one-letter escape stands for. -/
def escapeChar? : Char → Option Char
  | 'a' => some (charOf 7)
  | 'b' => some (charOf 8)
  | 'e' => some (charOf 27)
  | 'f' => some (charOf 12)
  | 'n' => some '\n'
  | 'r' => some '\r'
  | 't' => some '\t'
  | 'v' => some (charOf 11)
  | '\\' => some '\\'
  | _ => none

/-- Reads up to `width` octal digits. -/
def readOctal : Nat → Nat → List Char → Nat × List Char
  | width + 1, n, c :: cs =>
    if digitValue c < 8 then readOctal width (n * 8 + digitValue c) cs else (n, c :: cs)
  | _, n, cs => (n, cs)

/-- What an escape stands for, after its backslash, and the rest. -/
def readEscape : List Char → List Char × List Char
  | [] => (['\\'], [])
  | c :: cs =>
    match escapeChar? c with
    | some d => ([d], cs)
    | none =>
      if digitValue c < 8 then
        let (n, rest) := readOctal 3 0 (c :: cs)
        ([charOf n], rest)
      else (['\\', c], cs)

/-- Replaces the escapes of a text, within a number of steps, and says whether one of them ends all
output. -/
def unescape : Nat → List Char → List Char × Bool
  | 0, _ => ([], false)
  | _, [] => ([], false)
  | _ + 1, '\\' :: 'c' :: _ => ([], true)
  | limit + 1, '\\' :: cs =>
    let (out, rest) := match cs with
      | '0' :: cs =>
        let (n, rest) := readOctal 3 0 cs
        ([charOf n], rest)
      | cs => readEscape cs
    let (more, ends) := unescape limit rest
    (out ++ more, ends)
  | limit + 1, c :: cs =>
    let (more, ends) := unescape limit cs
    (c :: more, ends)

/-- What `echo` prints: its arguments with their escapes replaced, and a newline unless it is told
otherwise. -/
def echoText (args : List String) : List Char :=
  let (args, tail) := match args with
    | "-n" :: args => (args, [])
    | args => (args, ['\n'])
  let text := (String.intercalate " " args).toList
  let (out, ends) := unescape (text.length + 1) text
  if ends then out else out ++ tail

/-- How a conversion lays out its text. -/
structure Layout where
  left : Bool := false
  zeros : Bool := false
  plus : Bool := false
  space : Bool := false
  alternate : Bool := false
  width : Nat := 0
  precision : Option Nat := none
  deriving DecidableEq, Repr

/-- Fills a text up to the width with blanks. -/
def Layout.fill (l : Layout) (text : List Char) : List Char :=
  let blanks := List.replicate (l.width - text.length) ' '
  if l.left then text ++ blanks else blanks ++ text

def Layout.text (l : Layout) (text : List Char) : List Char :=
  l.fill (match l.precision with
    | some n => text.take n
    | none => text)

/-- The digits of a number, at least as many as the precision asks for; zero has none if it asks for
none. -/
def Layout.digits (l : Layout) (base n : Nat) : List Char :=
  let digits := Nat.toDigits base n
  match l.precision with
  | some least =>
    List.replicate (least - digits.length) '0' ++ (if least = 0 ∧ n = 0 then [] else digits)
  | none => digits

/-- Lays out a number by its sign and its digits. -/
def Layout.number (l : Layout) (sign digits : List Char) : List Char :=
  let zeros :=
    if l.zeros && !l.left && l.precision.isNone then
      List.replicate (l.width - sign.length - digits.length) '0'
    else []
  l.fill (sign ++ zeros ++ digits)

/-- Lays out an integer by the letter of its conversion. -/
def Layout.integer (l : Layout) (letter : Char) (n : Int) : List Char :=
  match letter with
  | 'd' | 'i' =>
    let sign := if n < 0 then ['-'] else if l.plus then ['+'] else if l.space then [' '] else []
    l.number sign (l.digits 10 n.natAbs)
  | 'u' => l.number [] (l.digits 10 n.natAbs)
  | 'o' =>
    let digits := l.digits 8 n.natAbs
    l.number [] (if l.alternate && digits.head? ≠ some '0' then '0' :: digits else digits)
  | 'x' => l.number (if l.alternate && n ≠ 0 then ['0', 'x'] else []) (l.digits 16 n.natAbs)
  | _ =>
    l.number (if l.alternate && n ≠ 0 then ['0', 'X'] else [])
      ((l.digits 16 n.natAbs).map Char.toUpper)

/-- How the printing by a format has gone: the output, the complaints, and how it ended. -/
structure Printed where
  out : List Char := []
  complaints : List String := []
  /-- A complaint that ends the printing and makes the command fail outright. -/
  failure : Option String := none
  /-- An escape has ended the output. -/
  ends : Bool := false
  /-- A conversion that is not known here. -/
  unknown : Bool := false
  /-- Whether an argument was asked for. -/
  asked : Bool := false
  args : List String := []

/-- Takes the next argument. -/
def Printed.next (p : Printed) : Option String × Printed :=
  (p.args.head?, { p with args := p.args.tail, asked := true })

def Printed.add (p : Printed) (text : List Char) : Printed := { p with out := p.out ++ text }

/-- The integer an argument stands for; what is no number in it is complained about. -/
def Printed.integer (p : Printed) (signed : Bool) : Int × Printed :=
  match p.next with
  | (none, p) => (0, p)
  | (some text, p) =>
    match text.toList with
    | '"' :: cs | '\'' :: cs => (((cs.head?.map Char.toNat).getD 0 : Nat), p)
    | [] => (0, p)
    | cs =>
      match readInteger cs with
      | none => (0, complain p (text ++ ": expected numeric value"))
      | some (n, rest) =>
        let inRange :=
          if signed then saturate n = n else (n.natAbs : Int) ≤ 2 * maxInteger + 1
        let value :=
          if signed then saturate n
          else if inRange then n % (wordValues : Int) else 2 * maxInteger + 1
        if !rest.isEmpty then (value, complain p (text ++ ": not completely converted"))
        else if !inRange then (value, complain p (text ++ ": Numerical result out of range"))
        else (value, p)
where
  complain (p : Printed) (message : String) : Printed :=
    { p with complaints := p.complaints ++ [message] }

/-- The widest layout that is known here. -/
def widestLayout : Nat := 65536

/-- A width or precision: digits, or an argument, of which the last 32 bits count. -/
def Printed.size (p : Printed) (cs : List Char) : Int × List Char × Printed :=
  match cs with
  | '*' :: cs =>
    let (n, p) := p.integer true
    let n := n.bmod 4294967296
    if widestLayout < n.natAbs then (0, cs, { p with unknown := true }) else (n, cs, p)
  | cs =>
    let (n, rest) := readDigits 10 0 cs
    if widestLayout < n then (0, rest, { p with unknown := true }) else (n, rest, p)

/-- Reads how a conversion is laid out, up to its letter. -/
def Printed.layout (p : Printed) (cs : List Char) : Layout × List Char × Printed :=
  let flags := cs.takeWhile (· ∈ ['#', '-', '+', ' ', '0'])
  let (width, rest, p) := p.size (cs.drop flags.length)
  let l : Layout :=
    { left := '-' ∈ flags || width < 0, zeros := '0' ∈ flags, plus := '+' ∈ flags,
      space := ' ' ∈ flags, alternate := '#' ∈ flags, width := width.natAbs }
  match rest with
  | '.' :: rest =>
    let (n, rest, p) := p.size rest
    ({ l with precision := if n < 0 then none else some n.natAbs }, rest, p)
  | rest => (l, rest, p)

/-- One conversion: `cs` is what follows the percent sign. The result says what follows it. -/
def Printed.convert (p : Printed) (cs : List Char) : Printed × List Char :=
  let (l, rest, p) := p.layout cs
  match rest with
  | [] => ({ p with failure := some "missing format character" }, [])
  | letter :: after =>
    if letter ∈ ['d', 'i', 'o', 'u', 'x', 'X'] then
      let signed := letter ∈ ['d', 'i']
      let (n, p) := p.integer signed
      (p.add (l.integer letter n), after)
    else if letter = 's' then
      let (text, p) := p.next
      (p.add (l.text (text.getD "").toList), after)
    else if letter = 'c' then
      let (text, p) := p.next
      (p.add (l.fill [((text.getD "").toList.head?).getD (charOf 0)]), after)
    else if letter = 'b' then
      let (text, p) := p.next
      let cs := (text.getD "").toList
      let (out, ends) := unescape (cs.length + 1) cs
      ({ p.add (l.text out) with ends }, after)
    else if letter ∈ ['a', 'A', 'e', 'E', 'f', 'F', 'g', 'G'] then ({ p with unknown := true }, after)
    else
      let start := String.ofList ('%' :: cs.take (cs.length - after.length))
      ({ p with failure := some (start ++ ": invalid directive") }, after)

/-- Whether printing goes no further. -/
def Printed.isOver (p : Printed) : Bool := p.failure.isSome || p.ends || p.unknown

/-- One pass of a format, within a number of steps. -/
def Printed.pass : Nat → Printed → List Char → Printed
  | 0, p, _ => p
  | _, p, [] => p
  | limit + 1, p, '%' :: '%' :: cs => pass limit (p.add ['%']) cs
  | limit + 1, p, '%' :: cs =>
    let (p, rest) := p.convert cs
    if p.isOver then p else pass limit p rest
  | limit + 1, p, '\\' :: cs =>
    let (out, rest) := readEscape cs
    pass limit (p.add out) rest
  | limit + 1, p, c :: cs => pass limit (p.add [c]) cs

/-- Passes of a format until no argument is left, or none is asked for. -/
def Printed.passes (form : List Char) : Nat → Printed → Printed
  | 0, p => p
  | limit + 1, p =>
    let before := p.args.length
    let p := Printed.pass (form.length + 1) p form
    if p.isOver || p.args.isEmpty || p.args.length = before then p else passes form limit p

/-- Prints arguments by a format. -/
def printFormat (form : String) (args : List String) : Printed :=
  Printed.passes form.toList (args.length + 1) { args }

end ImageForge.Shell
