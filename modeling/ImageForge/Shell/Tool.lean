import ImageForge.Shell.LineTool
/-!
Small programs that filter text: each reads its files, or its input when there are none, and says what
it prints and how it ends. A use that is not covered here has no result.
-/

namespace ImageForge.Shell

/-- The characters of a set as `tr` is given it, within a number of steps. -/
def translationSet : Nat → List Char → List Char
  | 0, _ => []
  | _, [] => []
  | limit + 1, '\\' :: cs =>
    let (out, rest) := readEscape cs
    (match out with
      | ['\\', c] => [c]
      | out => out) ++ translationSet limit rest
  | limit + 1, '[' :: ':' :: cs =>
    let name := String.ofList (cs.takeWhile Char.isAlpha)
    match cs.drop name.length with
    | ':' :: ']' :: rest =>
      (((List.range 256).map Char.ofNat).filter fun c => inClass name c) ++ translationSet limit rest
    | _ => '[' :: translationSet limit (':' :: cs)
  | limit + 1, a :: '-' :: b :: cs =>
    if b = '\\' then a :: translationSet limit ('-' :: b :: cs)
    else
      ((List.range (b.toNat + 1 - a.toNat)).map fun i => Char.ofNat (a.toNat + i)) ++
        translationSet limit cs
  | limit + 1, c :: cs => c :: translationSet limit cs
where
  inClass (name : String) (c : Char) : Bool :=
    match name with
    | "lower" => c.isLower
    | "upper" => c.isUpper
    | "digit" => c.isDigit
    | "alpha" => c.isAlpha
    | "alnum" => c.isAlphanum
    | "space" => isSpaceChar c
    | "punct" => 33 ≤ c.toNat && c.toNat ≤ 126 && !c.isAlphanum
    | _ => false

/-- Leaves one of each run of the same character of a set. -/
def squeeze (set : List Char) : List Char → List Char
  | a :: b :: cs => if a = b ∧ a ∈ set then squeeze set (b :: cs) else a :: squeeze set (b :: cs)
  | cs => cs

/-- Replaces, deletes or squeezes characters. -/
def translateTool (fs : Files) (args : List String) : Option ToolResult := do
  let .text input := fs.input | none
  let set := fun (s : String) => translationSet (s.length + 1) s.toList
  let every := (List.range 256).map Char.ofNat
  let (options, sets) := splitOptions args
  let letters := options.flatMap String.toList
  guard (letters.all (· ∈ ['d', 's', 'c', 'C']))
  let complement := 'c' ∈ letters || 'C' ∈ letters
  let first := fun (s : String) => if complement then every.filter (· ∉ set s) else set s
  let deletes := letters.contains 'd'
  let squeezes := letters.contains 's'
  match sets with
  | [a] =>
    if deletes && !squeezes then some { out := input.filter (· ∉ first a) }
    else if squeezes && !deletes then some { out := squeeze (first a) input }
    else if deletes then none
    else refuse ("missing operand after '" ++ a ++ "'\nTwo strings must be given when translating.")
  | [] => if letters.isEmpty then refuse "missing operand" else none
  | [a, b] =>
    guard (!deletes)
    let source := first a
    let target := set b
    let last ← target.getLast?
    let replace := fun c =>
      match source.reverse.findIdx? (· == c) with
      | some i => target.getD (source.length - 1 - i) last
      | none => c
    let out := input.map replace
    some { out := if squeezes then squeeze target out else out }
  | _ => none
where
  refuse (message : String) : Option ToolResult :=
    some { err := ("tr: " ++ message ++ "\nTry 'tr --help' for more information.\n").toList, status := 1 }

/-- The numbers from a first to a last one, with a step between. -/
def countFrom (step last : Int) : Nat → Int → List Int
  | 0, _ => []
  | limit + 1, n =>
    if (0 < step ∧ last < n) ∨ (step < 0 ∧ n < last) then []
    else n :: countFrom step last limit (n + step)

def sequenceTool (args : List String) : Option ToolResult := do
  let (separator, args) := match args with
    | "-s" :: s :: rest => (s.toList, rest)
    | a :: rest =>
      match a.toList with
      | '-' :: 's' :: s => (s, rest)
      | _ => (['\n'], args)
    | [] => (['\n'], [])
  let ns ← args.mapM integerValue?
  let (first, step, last) ← match ns with
    | [last] => some (1, 1, last)
    | [first, last] => some (first, 1, last)
    | [first, step, last] => if step = 0 then none else some (first, step, last)
    | _ => none
  let limit := (last - first).natAbs / step.natAbs + 1
  guard (limit ≤ 100000)
  let texts := (countFrom step last limit first).map fun n => (toString n).toList
  some { out := if texts.isEmpty then [] else List.intercalate separator texts ++ ['\n'] }

/-- The last part of a path, without an ending that is given. -/
def baseNameTool (args : List String) : Option ToolResult :=
  let base := fun (path : String) =>
    let cs := (path.toList.reverse.dropWhile (· == '/'))
    if cs.isEmpty then (if path.isEmpty then [] else ['/']) else (cs.takeWhile (· ≠ '/')).reverse
  match args with
  | [path] => if isOption path then none else some { out := base path ++ ['\n'] }
  | [path, ending] =>
    if isOption path then none
    else
      let name := base path
      let ending := ending.toList
      let cut :=
        if ending.reverse.isPrefixOf name.reverse && ending ≠ name then
          name.take (name.length - ending.length)
        else name
      some { out := cut ++ ['\n'] }
  | _ => none

/-- What comes before the last part of paths. -/
def directoryTool (args : List String) : Option ToolResult := do
  guard (!args.isEmpty && !args.any isOption)
  some { out := ofTextLines (args.map fun path =>
    let cs := path.toList.reverse.dropWhile (· == '/')
    if cs.isEmpty then (if path.isEmpty then ['.'] else ['/'])
    else
      let rest := cs.dropWhile (· ≠ '/')
      if rest.isEmpty then ['.']
      else
        let rest := rest.dropWhile (· == '/')
        if rest.isEmpty then ['/'] else rest.reverse) }

/-- The value of one operation on two operands. -/
def expressionTool (args : List String) : Option ToolResult := do
  let answer := fun (text : String) =>
    some { out := text.toList ++ ['\n'], status := if text = "" ∨ text = "0" then 1 else 0 : ToolResult }
  match args with
  | [a] => if a ∈ ["(", ")", "--help", "--version", "--"] then none else answer a
  | [a, op, b] =>
    let numbers := do
      let x ← integerValue? a
      let y ← integerValue? b
      some (x, y)
    let compare := fun (f : Int → Int → Bool) (g : String → String → Bool) =>
      answer (if (match numbers with
        | some (x, y) => f x y
        | none => g a b) then "1" else "0")
    let calculate := fun (f : Int → Int → Int) =>
      match numbers with
      | some (x, y) => answer (toString (f x y))
      | none => some { err := "expr: non-integer argument\n".toList, status := 2 }
    let divide := fun (f : Int → Int → Int) =>
      match numbers with
      | some (_, 0) => some { err := "expr: division by zero\n".toList, status := 2 }
      | _ => calculate f
    match op with
    | "+" => calculate (· + ·)
    | "-" => calculate (· - ·)
    | "*" => calculate (· * ·)
    | "/" => divide Int.tdiv
    | "%" => divide Int.tmod
    | "=" | "==" => compare (· == ·) (· == ·)
    | "!=" => compare (· != ·) (· != ·)
    | "<" => compare (decide <| · < ·) (decide <| · < ·)
    | "<=" => compare (decide <| · ≤ ·) (decide <| · ≤ ·)
    | ">" => compare (decide <| · > ·) (decide <| · > ·)
    | ">=" => compare (decide <| · ≥ ·) (decide <| · ≥ ·)
    | "|" => answer (if a ≠ "" ∧ a ≠ "0" then a else if b = "" then "0" else b)
    | "&" => answer (if a ≠ "" ∧ a ≠ "0" ∧ b ≠ "" ∧ b ≠ "0" then a else "0")
    | _ => none
  | _ => none

/-- Prints its arguments, without a newline if it is told so. -/
def printTool (args : List String) : Option ToolResult :=
  let options := args.takeWhile fun a =>
    match a.toList with
    | '-' :: c :: cs => (c :: cs).all (· ∈ ['n', 'e', 'E'])
    | _ => false
  let text := (String.intercalate " " (args.drop options.length)).toList
  if options.any (·.toList.contains 'e') then none
  else some { out := if options.isEmpty then text ++ ['\n'] else text }

/-- The programs that are covered. -/
def toolNames : List String :=
  ["cat", "head", "tail", "wc", "tr", "sort", "uniq", "seq", "rev", "tac", "cut", "basename", "dirname",
    "grep", "expr", "sleep", "yes", "tee", "true", "false", "echo", "printf", "ls"]

/-- Runs one of the programs. -/
def runTool (fs : Files) (name : String) (args : List String) : Option ToolResult :=
  match name with
  | "cat" =>
    let (options, names) := splitOptions args
    if options.all (· == "u") then filterFiles fs "cat" names id else none
  | "head" | "tail" => cutTool fs name args
  | "wc" => countTool fs args
  | "tr" => translateTool fs args
  | "sort" => sortTool fs args
  | "uniq" => distinctTool fs args
  | "seq" => sequenceTool args
  | "rev" =>
    if args.any isOption then none
    else filterFiles fs "rev" args fun cs =>
      let out := ofTextLines ((textLines cs).map List.reverse)
      if cs.getLast? = some '\n' then out else out.dropLast
  | "tac" =>
    if args.any isOption then none
    else filterFiles fs "tac" args fun cs => ofTextLines (textLines cs).reverse
  | "cut" => columnsTool fs args
  | "basename" => baseNameTool args
  | "dirname" => directoryTool args
  | "grep" => searchTool fs args
  | "expr" => expressionTool args
  | "sleep" =>
    if !args.isEmpty && args.all (fun a => a.toList.any Char.isDigit &&
        a.toList.all fun c => c.isDigit || c ∈ ['.', 's', 'm', 'h', 'd']) then some {}
    else none
  | "yes" =>
    let line := if args.isEmpty then ['y'] else (String.intercalate " " args).toList
    if args.any isOption then none
    else some { out := (List.replicate 4096 (line ++ ['\n'])).flatten }
  | "tee" =>
    match fs.input, args with
    | .text cs, [] => some { out := cs }
    | .text cs, ["/dev/null"] => some { out := cs }
    | .text cs, ["/dev/stderr"] => some { out := cs, err := cs }
    | _, _ => none
  | "true" => some {}
  | "false" => some { status := 1 }
  | "echo" => printTool args
  | "ls" =>
    match args with
    | [path] =>
      if isOption path then none
      else match fs.file path with
        | .missing =>
          let text := "ls: cannot access '" ++ path ++ "': No such file or directory\n"
          some { err := text.toList, status := 2 }
        | _ => none
    | _ => none
  | _ => none

end ImageForge.Shell
