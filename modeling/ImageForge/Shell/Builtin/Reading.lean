import ImageForge.Shell.Builtin.Basic
/-!
The builtin commands that read: lines from the input, and options from arguments.
-/

namespace ImageForge.Shell.Script

/-- Reads a line, in which a backslash takes the meaning from what follows unless told otherwise: its
characters with whether they are quoted, what follows it, and whether it has an end. -/
def readLine (raw : Bool) : Nat → List Char → List (Char × Bool) × List Char × Bool
  | 0, cs => ([], cs, false)
  | _, [] => ([], [], false)
  | _, '\n' :: cs => ([], cs, true)
  | limit + 1, c :: cs =>
    if c == '\\' && !raw then
      match cs with
      | '\n' :: cs => readLine raw limit cs
      | d :: cs =>
        let (line, rest) := readLine raw limit cs
        ((d, true) :: line, rest)
      | [] => ([], [], false)
    else
      let (line, rest) := readLine raw limit cs
      ((c, false) :: line, rest)

/-- The first field of a line, and the rest of the line after what separates the two. -/
def firstField (separators : List Char) (cs : List (Char × Bool)) :
    List (Char × Bool) × List (Char × Bool) :=
  let separates := fun (c : Char × Bool) => !c.2 && c.1 ∈ separators
  let blank := fun (c : Char × Bool) => separates c && Splitting.isBlankSeparator c.1
  let field := cs.takeWhile (!separates ·)
  let rest := (cs.drop field.length).dropWhile blank
  match rest with
  | c :: more =>
    if separates c && !blank c then (field, more.dropWhile blank) else (field, rest)
  | [] => (field, [])

/-- How many characters the last variable gets: all, without separators at the end if nothing but
blanks and at most one other separator follow the first separator. Quoted characters do not change what is
taken for the end. -/
def lastLength (separators : List Char) (cs : List (Char × Bool)) : Nat :=
  let (cut, _, _) := (cs.zip (List.range cs.length)).foldl
    (fun (state : Option Nat × Bool × Bool) ((c, quoted), i) =>
      let (cut, after, blanks) := state
      let separates := c ∈ separators
      let blank := separates && Splitting.isBlankSeparator c
      if quoted then state
      else if !after then (if separates then (some i, true, blank) else state)
      else if blank then (cut <|> some i, true, blanks)
      else (if separates && blanks then cut else none, true, false)) (none, false, false)
  cut.getD cs.length

/-- Gives the fields of a line to variables, the last of which gets all that is left. -/
def shareFields (separators : List Char) (cs : List (Char × Bool)) : List String → List (String × String)
  | [] => []
  | [name] => [(name, String.ofList ((cs.take (lastLength separators cs)).map (·.1)))]
  | name :: names =>
    let (field, rest) := firstField separators cs
    (name, String.ofList (field.map (·.1))) :: shareFields separators rest names

/-- Everything that can be read at a descriptor, which stays. -/
def available (descriptor : Nat) : Script (List Char) := do
  match (← context).descriptors.lookup descriptor with
  | some (.channel n) => return (← channel n).contents
  | some .full => unknown
  | _ => return []

/-- Leaves something to be read at a descriptor. -/
def leave (descriptor : Nat) (rest : List Char) : Script Unit := do
  match (← context).descriptors.lookup descriptor with
  | some (.channel n) => setChannel n { pending := rest }
  | _ => pure ()

def readVariables (args : List String) : Script Nat := do
  let rec options : List String → Bool → Script (Bool × List String)
    | [], raw => return (raw, [])
    | "-r" :: rest, _ => options rest true
    | "-p" :: _ :: rest, raw => options rest raw
    | "--" :: rest, raw => return (raw, rest)
    | a :: rest, raw => do
      match a.toList with
      | '-' :: c :: _ => fail ("Illegal option -" ++ String.singleton c)
      | _ => return (raw, a :: rest)
  let (raw, names) ← options args false
  if names.isEmpty then fail "arg count"
  for name in names do
    if !isName name then fail (name ++ ": bad variable name")
  let text ← available 0
  let (line, rest, ended) := readLine raw (text.length + 1) text
  leave 0 rest
  let separators ← separators
  let blank := fun (c : Char × Bool) =>
    !c.2 && c.1 ∈ separators && Splitting.isBlankSeparator c.1
  for (name, value) in shareFields separators (line.dropWhile blank) names do
    assign name value
  return if ended then 0 else 1

/-- The next option of a list of arguments. -/
def nextOption (args : List String) : Script Nat := do
  match args with
  | letters :: name :: given =>
    let c ← context
    let words := if given.isEmpty then c.arguments else given
    let index := max 1 ((((← valueOf? "OPTIND").getD "1").toNat?).getD 1)
    let quiet := letters.startsWith ":"
    let allowed := letters.toList.filter (· ≠ ':')
    let finish : Script Nat := do
      assign "OPTIND" (toString index)
      modifyContext ({ · with optionOffset := 0 })
      assign name "?"
      return 1
    match words[index - 1]? with
    | none => finish
    | some word =>
      let offset := c.optionOffset
      match word.toList.drop (offset + 1) with
      | [] => finish
      | letter :: more =>
        if offset = 0 && !word.startsWith "-" then finish
        else if offset = 0 && word = "--" then
          assign "OPTIND" (toString (index + 1))
          assign name "?"
          return 1
        else
          let advance : Script Unit := do
            if more.isEmpty then
              assign "OPTIND" (toString (index + 1))
              modifyContext ({ · with optionOffset := 0 })
            else
              assign "OPTIND" (toString index)
              modifyContext ({ · with optionOffset := offset + 1 })
          if letter ∉ allowed then
            advance
            if quiet then assign "OPTARG" (String.singleton letter)
            else
              discard (write 2 ("Illegal option -" ++ String.singleton letter ++ "\n").toList)
              modifyContext fun c => { c with bindings := c.bindings.filter (·.1 ≠ "OPTARG") }
            assign name "?"
            return 0
          else if takesValue letters.toList letter then
            match if more.isEmpty then words[index]? else some (String.ofList more) with
            | some value =>
              assign "OPTARG" value
              assign "OPTIND" (toString (if more.isEmpty then index + 2 else index + 1))
              modifyContext ({ · with optionOffset := 0 })
              assign name (String.singleton letter)
              return 0
            | none =>
              assign "OPTIND" (toString (index + 1))
              modifyContext ({ · with optionOffset := 0 })
              if quiet then
                assign "OPTARG" (String.singleton letter)
                assign name ":"
              else
                discard
                  (write 2 ("No arg for -" ++ String.singleton letter ++ " option\n").toList)
                modifyContext fun c => { c with bindings := c.bindings.filter (·.1 ≠ "OPTARG") }
                assign name "?"
              return 0
          else
            advance
            assign "OPTARG" ""
            assign name (String.singleton letter)
            return 0
  | _ => fail "Usage: getopts optstring var [arg...]"
where
  takesValue : List Char → Char → Bool
    | a :: b :: rest, letter => (a == letter && b == ':') || takesValue (b :: rest) letter
    | _, _ => false

end ImageForge.Shell.Script
