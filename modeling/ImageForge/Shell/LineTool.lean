import ImageForge.Shell.Files
/-!
Small programs that work on lines: they count them, cut them, put them into order or search them. A use
that is not covered here has no result.
-/

namespace ImageForge.Shell

/-- The number that `head` and `tail` are given, with its unit and the operands. -/
def sizeOption (args : List String) : Option (Char × List Char × List String) :=
  match args with
  | "-n" :: n :: rest => some ('n', n.toList, rest)
  | "-c" :: n :: rest => some ('c', n.toList, rest)
  | a :: rest =>
    match a.toList with
    | '-' :: 'n' :: ds => some ('n', ds, rest)
    | '-' :: 'c' :: ds => some ('c', ds, rest)
    | '-' :: d :: ds => if d.isDigit then some ('n', d :: ds, rest) else none
    | _ => some ('n', ['1', '0'], args)
  | [] => some ('n', ['1', '0'], [])

/-- The text cut after some lines, the rest of which is dropped or kept. -/
def afterLines : Nat → List Char → List Char × List Char
  | 0, cs => ([], cs)
  | _, [] => ([], [])
  | n + 1, '\n' :: cs =>
    let (first, rest) := afterLines n cs
    ('\n' :: first, rest)
  | n + 1, c :: cs =>
    let (first, rest) := afterLines (n + 1) cs
    (c :: first, rest)

/-- Prints the beginning or the end of what is read. -/
def cutTool (fs : Files) (name : String) (args : List String) : Option ToolResult := do
  let (unit, size, names) ← sizeOption args
  guard (names.length ≤ 1 && !names.any isOption)
  let (fromStart, digits) := match size with
    | '+' :: ds => (true, ds)
    | ds => (false, ds)
  let n ← digitsValue? digits
  let count := fun (cs : List Char) => (textLines cs).length
  let blame := fun file (reason : String) =>
    if reason = "Is a directory" then name ++ ": error reading '" ++ file ++ "': " ++ reason
    else name ++ ": cannot open '" ++ file ++ "' for reading: " ++ reason
  let r ← readFiles fs names blame 1
  let cut := fun (cs : List Char) =>
    if name = "head" then (if unit = 'n' then (afterLines n cs).1 else cs.take n)
    else
      let skipped := if fromStart then n - 1 else (if unit = 'n' then count cs else cs.length) - n
      if unit = 'n' then (afterLines skipped cs).2 else cs.drop skipped
  some { r with out := cut r.out }

/-- How many words a text has. -/
def countWords (cs : List Char) : Nat :=
  (cs.foldl (fun (n, inside) c =>
    if isSpaceChar c then (n, false) else if inside then (n, true) else (n + 1, true)) (0, false)).1

/-- Counts lines, words and bytes. -/
def countTool (fs : Files) (args : List String) : Option ToolResult := do
  let (options, names) := splitOptions args
  let letters := options.flatMap String.toList
  guard (letters.all (· ∈ ['l', 'w', 'c', 'm']) && names.length ≤ 1)
  let blame := fun file reason => "wc: " ++ file ++ ": " ++ reason
  let r ← readFiles fs names blame 1
  let shown := fun c => letters.isEmpty || c ∈ letters
  let counts := (if shown 'l' then [r.out.count '\n'] else []) ++
    (if shown 'w' then [countWords r.out] else []) ++
    (if shown 'c' || 'm' ∈ letters then [r.out.length] else [])
  let width := if counts.length = 1 then 1 else 7
  let texts := counts.map fun n =>
    let digits := Nat.toDigits 10 n
    List.replicate (width - digits.length) ' ' ++ digits
  let name := match names with
    | [file] => if file = "-" then [' ', '-'] else ' ' :: file.toList
    | _ => []
  if r.status ≠ 0 then some { r with out := [] }
  else some { r with out := List.intercalate [' '] texts ++ name ++ ['\n'] }

/-- Puts lines into order. -/
def sortTool (fs : Files) (args : List String) : Option ToolResult := do
  let (options, names) := splitOptions args
  let letters := options.flatMap String.toList
  guard (letters.all (· ∈ ['r', 'n', 'u']))
  let blame := fun file reason =>
    if reason = "Is a directory" then "sort: read failed: " ++ file ++ ": " ++ reason
    else "sort: cannot read: " ++ file ++ ": " ++ reason
  let r ← readFiles fs names blame 2
  if r.status ≠ 0 then return { r with out := [] }
  let key := fun (l : List Char) =>
    ((integerValue? (String.ofList (match l.dropWhile isSpaceChar with
      | '-' :: ds => '-' :: ds.takeWhile Char.isDigit
      | ds => ds.takeWhile Char.isDigit))).getD 0)
  let text := fun (l : List Char) => String.ofList l
  let byNumber := 'n' ∈ letters
  let before := fun a b =>
    if byNumber ∧ key a ≠ key b then decide (key a < key b)
    else if byNumber && 'u' ∈ letters then true
    else decide (text a ≤ text b)
  let ordered := (textLines r.out).mergeSort fun a b => if 'r' ∈ letters then before b a else before a b
  let same := fun a b => if byNumber then key a = key b else a = b
  let kept :=
    if 'u' ∈ letters then
      (ordered.foldl (fun (kept : List (List Char)) l =>
        match kept with
        | k :: _ => if same k l then kept else l :: kept
        | [] => [l]) []).reverse
    else ordered
  some { out := ofTextLines kept }

/-- Leaves one of each run of the same line. -/
def distinctTool (fs : Files) (args : List String) : Option ToolResult := do
  let (options, names) := splitOptions args
  let letters := options.flatMap String.toList
  guard (letters.all (· ∈ ['c', 'd', 'u']) && names.length ≤ 1)
  let runs := fun (lines : List (List Char)) =>
    (lines.foldl (fun (runs : List (List Char × Nat)) l =>
      match runs with
      | (k, n) :: before => if k = l then (k, n + 1) :: before else (l, 1) :: runs
      | [] => [(l, 1)]) []).reverse
  filterFiles fs "uniq" names fun cs =>
    ofTextLines (((runs (textLines cs)).filter fun (_, n) =>
      !('d' ∈ letters && n = 1) && !('u' ∈ letters && n > 1)).map fun (l, n) =>
        let digits := Nat.toDigits 10 n
        if 'c' ∈ letters then List.replicate (7 - digits.length) ' ' ++ digits ++ ' ' :: l else l)

/-- The places that a list such as `1,3-4` names. -/
def inPlaces (list : String) : Option (Nat → Bool) := do
  let ranges ← (Text.splitAt ',' list).mapM fun part =>
    match (Text.splitAt '-' part).map fun s => digitsValue? s.toList with
    | [some n] => some (n, some n)
    | [some a, some b] => some (a, some b)
    | [some a, none] => some (a, none)
    | [none, some b] => some (1, some b)
    | _ => none
  some fun i => ranges.any fun (a, b) => a ≤ i && (b.map (decide <| i ≤ ·)).getD true

/-- The elements at some places, which are counted from one. -/
def keepPlaces {α : Type} (wanted : Nat → Bool) (xs : List α) : List α :=
  ((xs.zip (List.range xs.length)).filter fun (_, i) => wanted (i + 1)).map (·.1)

/-- Cuts columns or fields out of lines. -/
def columnsTool (fs : Files) (args : List String) : Option ToolResult :=
  let rec go : List String → Char → Option (Char × String) → Option (Char × Char × String × List String)
    | "-d" :: d :: rest, _, chosen => go rest (d.toList.headD '\t') chosen
    | "-f" :: list :: rest, d, _ => go rest d (some ('f', list))
    | "-c" :: list :: rest, d, _ => go rest d (some ('c', list))
    | "-b" :: list :: rest, d, _ => go rest d (some ('c', list))
    | a :: rest, d, chosen =>
      match a.toList with
      | ['-', 'd', c] => go rest c chosen
      | '-' :: 'f' :: list => go rest d (some ('f', String.ofList list))
      | '-' :: 'c' :: list | '-' :: 'b' :: list => go rest d (some ('c', String.ofList list))
      | '-' :: _ :: _ => none
      | _ => chosen.map fun (kind, list) => (d, kind, list, a :: rest)
    | [], d, chosen => chosen.map fun (kind, list) => (d, kind, list, [])
  do
    let (d, kind, list, names) ← go args '\t' none
    let wanted ← inPlaces list
    filterFiles fs "cut" names fun cs =>
      ofTextLines ((textLines cs).map fun l =>
        if kind = 'c' then keepPlaces wanted l
        else if d ∈ l then List.intercalate [d] (keepPlaces wanted (Text.pieces d l))
        else l)

/-- Whether a text without special characters is somewhere in another. -/
def isWithin (needle : List Char) : List Char → Bool
  | [] => needle.isEmpty
  | c :: cs => needle.isPrefixOf (c :: cs) || isWithin needle cs

/-- Searches lines for a text, with the ends of a line marked perhaps. -/
def searchTool (fs : Files) (args : List String) : Option ToolResult := do
  let (options, operands) := splitOptions args
  let letters := options.flatMap String.toList
  guard (letters.all (· ∈ ['q', 'c', 'v', 'F', 'x', 'i', 'E']))
  let [pattern] := operands | none
  let .text input := fs.input | none
  let fold := fun (cs : List Char) => if 'i' ∈ letters then cs.map Char.toLower else cs
  let fixed := 'F' ∈ letters
  let cs := fold pattern.toList
  let (atStart, cs) := match cs with
    | '^' :: rest => if fixed then (false, cs) else (true, rest)
    | cs => (false, cs)
  let (atEnd, cs) := match cs.reverse with
    | '$' :: rest => if fixed then (false, cs) else (true, rest.reverse)
    | _ => (false, cs)
  guard (fixed || cs.all fun c => c.isAlphanum || c ∈ [' ', '_', '-', ':', '/', ',', ';', '=', '!'])
  let fits := fun (l : List Char) =>
    let l := fold l
    if 'x' ∈ letters || (atStart && atEnd) then l == cs
    else if atStart then cs.isPrefixOf l
    else if atEnd then cs.reverse.isPrefixOf l.reverse
    else isWithin cs l
  let found := (textLines input).filter fun l => fits l != ('v' ∈ letters)
  let status := if found.isEmpty then 1 else 0
  if 'q' ∈ letters then some { status }
  else if 'c' ∈ letters then some { out := Nat.toDigits 10 found.length ++ ['\n'], status }
  else some { out := ofTextLines found, status }

end ImageForge.Shell
