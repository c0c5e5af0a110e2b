import ImageForge.Shell.Builtin.Basic
/-!
The builtin commands that set, mark and unset variables, options and arguments.
-/

namespace ImageForge.Shell.Script

/-- A name with a value, as in an assignment. -/
def splitAssignment (text : String) : String × Option String :=
  let name := text.toList.takeWhile (· ≠ '=')
  match text.toList.drop name.length with
  | _ :: value => (String.ofList name, some (String.ofList value))
  | [] => (text, none)

/-- Marks variables, assigning those that come with a value, or shows those that are marked. -/
def markVariables (command : String) (args : List String) (mark : Variable → Variable) : Script Nat := do
  let (letters, names) ← letterOptions ['p'] args
  if names.isEmpty || 'p' ∈ letters then
    let marked := ((← context).bindings.filter fun (_, v) => mark v = v).mergeSort
      fun a b => decide (a.1 ≤ b.1)
    return ← print (marked.flatMap fun (name, v) =>
      (command ++ " " ++ name ++ ((v.value.map fun text => "=" ++ quoteText text).getD "") ++ "\n").toList)
  for text in names do
    let (name, value) := splitAssignment text
    if !isName name then fail (name ++ ": bad variable name")
    match value with
    | some v => assign name v
    | none => pure ()
    declare name mark
  return 0

/-- Makes variables belong to the function that is running. -/
def makeLocal (args : List String) : Script Nat := do
  match (← context).saved with
  | [] => fail "not in a function"
  | _ => pure ()
  for text in args do
    let (name, value) := splitAssignment text
    if !isName name then fail (name ++ ": bad variable name")
    modifyContext fun c =>
      match c.saved with
      | frame :: frames =>
        if frame.any (·.1 = name) then c
        else { c with saved := ((name, c.bindings.lookup name) :: frame) :: frames }
      | [] => c
    match value with
    | some v => assign name v
    | none => pure ()
  return 0

def unsetNames (args : List String) : Script Nat := do
  let (letters, names) ← letterOptions ['v', 'f'] args
  for name in names do
    if 'f' ∈ letters then
      modifyContext fun c => { c with functions := c.functions.filter (·.1 ≠ name) }
    else
      if !isName name then fail (name ++ ": bad variable name")
      match (← context).bindings.lookup name with
      | some v => if v.readOnly then fail (name ++ ": is read only")
      | none => pure ()
      modifyContext fun c => { c with bindings := c.bindings.filter (·.1 ≠ name) }
  return 0

/-- Sets or clears the option of a letter; `none` for a letter without option. -/
def setOption? (o : Options) (letter : Char) (on : Bool) : Option Options :=
  match letter with
  | 'e' => some { o with errexit := on }
  | 'u' => some { o with nounset := on }
  | 'x' => some { o with xtrace := on }
  | 'n' => some { o with noexec := on }
  | 'f' => some { o with noglob := on }
  | 'a' => some { o with allexport := on }
  | c =>
    if c ∈ ['b', 'C', 'E', 'V', 'v', 's', 'm', 'i', 'I'] then
      some { o with others :=
        if on then (if c ∈ o.others then o.others else o.others ++ [c])
        else o.others.filter (· ≠ c) }
    else none

/-- Whether the option of a letter is set. -/
def optionIsSet (o : Options) (letter : Char) : Bool :=
  match letter with
  | 'e' => o.errexit
  | 'u' => o.nounset
  | 'x' => o.xtrace
  | 'n' => o.noexec
  | 'f' => o.noglob
  | 'a' => o.allexport
  | c => c ∈ o.others

/-- Options without a letter. -/
def otherOptionNames : List String := ["privileged", "nolog", "debug"]

/-- The letters of the options by their long names. -/
def optionNames : List (String × Char) :=
  [("errexit", 'e'), ("noglob", 'f'), ("ignoreeof", 'I'), ("interactive", 'i'), ("monitor", 'm'),
    ("noexec", 'n'), ("stdin", 's'), ("xtrace", 'x'), ("verbose", 'v'), ("vi", 'V'), ("emacs", 'E'),
    ("noclobber", 'C'), ("allexport", 'a'), ("notify", 'b'), ("nounset", 'u')]

/-- Sets one option, or says which is none. -/
def setLetter (sign : Char) (letter : Char) : Script Unit := do
  match setOption? (← context).options letter (sign = '-') with
  | some options => modifyContext ({ · with options })
  | none => fail ("Illegal option " ++ String.ofList [sign, letter])

/-- Sets options and arguments. -/
def setAll (args : List String) : Script Nat := do
  if args.isEmpty then unknown
  go args
where
  go : List String → Script Nat
    | [] => return 0
    | a :: rest => do
      match a.toList with
      | ['-', '-'] => setArguments rest
      | ['-'] =>
        setLetter '+' 'x'
        if rest.isEmpty then return 0
        setArguments rest
      | sign :: c :: cs =>
        if sign ≠ '-' && sign ≠ '+' then setArguments (a :: rest)
        else
          for letter in (c :: cs).filter (· ≠ 'o') do
            setLetter sign letter
          if 'o' ∈ c :: cs then
            match rest with
            | [] => showOptions (sign = '-')
            | name :: rest =>
              match optionNames.lookup name with
              | some letter =>
                setLetter sign letter
                go rest
              | none => fail ("Illegal option " ++ String.singleton sign ++ "o " ++ name)
          else go rest
      | _ => setArguments (a :: rest)
  /-- All options, as a table or as what would set them. -/
  showOptions (table : Bool) : Script Nat := do
    let o := (← context).options
    let all := optionNames.map (fun (name, letter) => (name, optionIsSet o letter)) ++
      otherOptionNames.map (·, false)
    let lines :=
      if table then
        "Current option settings" :: all.map fun (name, on) =>
          String.ofList (name.toList ++ List.replicate (16 - name.length) ' ') ++ (if on then "on" else "off")
      else all.map fun (name, on) => "set " ++ (if on then "-o " else "+o ") ++ name
    print (lines.flatMap fun l => (l ++ "\n").toList)
  setArguments (args : List String) : Script Nat := do
    modifyContext fun c => { c with arguments := args, optionOffset := 0 }
    return 0

end ImageForge.Shell.Script
