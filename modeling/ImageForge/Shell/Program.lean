import ImageForge.Shell.Builtin
import ImageForge.Shell.Redirection
import ImageForge.Shell.Source
import ImageForge.Shell.Tool
/-!
Programs: where a name leads, the shell as a program that scripts start, and programs that filter text.
-/

namespace ImageForge.Shell

/-- Programs that every system has and that are not covered here. -/
def otherPrograms : List String :=
  ["awk", "sed", "ls", "date", "id", "find", "xargs", "tee", "mkdir", "rmdir", "rm", "cp", "mv", "ln",
    "touch", "chmod", "chown", "stat", "uname", "whoami", "hostname", "nproc", "ps", "df", "du", "od",
    "bash", "mktemp", "readlink", "realpath", "sha256sum", "md5sum", "base64", "comm", "join", "paste",
    "fold", "fmt", "nl", "split", "timeout", "nohup", "nice", "which", "tty", "stty", "dd", "gzip",
    "tar", "diff", "cmp", "mawk", "logger", "getent", "install", "shuf", "factor", "printenv",
    "arch", "groups", "sync", "truncate", "tsort", "unexpand", "expand", "cksum", "sum", "b2sum", "egrep",
    "fgrep", "mkfifo", "mknod", "numfmt", "pathchk", "pr", "ptx", "dircolors", "dir", "vdir", "users",
    "who", "link", "unlink", "chroot", "stdbuf", "csplit", "hostid", "logname", "pinky", "runcon",
    "getconf", "iconv", "locale", "ldd", "mount", "umount", "su", "login", "more", "kill", "pidof", "free",
    "top", "uptime", "vmstat", "watch", "pgrep", "pkill", "setsid", "script", "flock", "column", "hexdump",
    "look", "mcookie", "renice", "whereis", "getopt", "ipcs", "lscpu", "lsblk", "dmesg", "findmnt", "w",
    "git", "curl", "wget", "ssh", "make", "openssl", "apt", "dpkg", "clear", "reset", "tput",
    "vi", "less", "file", "nano"]

/-- The names by which the shell itself is started. -/
def shellNames : List String := ["sh", "dash"]

/-- All programs that are found by their names. -/
def knownPrograms : List String := toolNames ++ shellNames ++ "env" :: otherPrograms

namespace Script

/-- The variables that programs get. -/
def environment (c : Context) : List (String × Variable) :=
  c.bindings.filter fun (_, v) => v.exported && v.value.isSome

/-- What the variables of a shell are when it starts. -/
def initialVariables (environment : List (String × Variable)) : List (String × Variable) :=
  [("IFS", " \t\n"), ("OPTIND", "1"), ("PS1", "# "), ("PS2", "> "), ("PS4", "+ ")].foldl
    (fun vs (name, value) => put name { value := some value } vs)
    (environment.map fun (name, v) => (name, { v with readOnly := false }))

/-- How a shell is told to run: by a script as text, or by what it reads. -/
inductive Invocation
  | script (text : String) (name : String) (arguments : List String) (options : Options)
  | input (name : String) (arguments : List String) (options : Options)
  | file (path : String) (arguments : List String) (options : Options)
  | refused (message : String)

/-- Reads the arguments that a shell is started with. -/
def invocation (name : String) : List String → Options → Bool → Bool → Invocation
  | [], o, fromText, _ =>
    if fromText then .refused "-c requires an argument" else .input name [] o
  | a :: rest, o, fromText, fromInput =>
    match a.toList with
    | sign :: c :: cs =>
      if sign ≠ '-' && sign ≠ '+' then operands (a :: rest) o fromText fromInput
      else if a = "--" then operands rest o fromText fromInput
      else
        let letters := c :: cs
        let o' := (letters.filter (· ∉ ['c', 'o', 'l'])).foldl (fun (o : Except Char Options) letter =>
          o.bind fun o => match setOption? o letter (sign = '-') with
            | some o => .ok o
            | none => .error letter) (.ok o)
        match o' with
        | .error bad => .refused ("Illegal option " ++ String.ofList [sign, bad])
        | .ok o =>
          let fromText := fromText || 'c' ∈ letters
          let fromInput := fromInput || 's' ∈ letters
          if 'o' ∈ letters then
            match rest with
            | [] => .input name [] o
            | long :: rest =>
              match optionNames.lookup long with
              | some letter =>
                invocation name rest ((setOption? o letter (sign = '-')).getD o) fromText fromInput
              | none => .refused ("Illegal option " ++ String.singleton sign ++ "o " ++ long)
          else invocation name rest o fromText fromInput
    | ['-'] => operands rest o fromText fromInput
    | _ => operands (a :: rest) o fromText fromInput
where
  operands (rest : List String) (o : Options) (fromText fromInput : Bool) : Invocation :=
    match fromText, rest with
    | true, [] => .refused "-c requires an argument"
    | true, text :: [] => .script text name [] o
    | true, text :: zero :: arguments => .script text zero arguments o
    | false, [] => .input name [] o
    | false, path :: arguments =>
      if fromInput then .input name (path :: arguments) o else .file path arguments o

/-- Runs a shell in the current context, up to but without what it does at its end. -/
def runShell (run : Command → Script Unit) (i : Invocation) : Script Unit := do
  let start := fun (name : String) (arguments : List String) (options : Options) =>
    modifyContext fun c => { c with name, arguments, options, line := 1 }
  match i with
  | .refused message =>
    modifyContext ({ · with line := 0 })
    fail message
  | .script text name arguments options => do
    start name arguments options
    runSource run text.toList
  | .input name arguments options => do
    start name arguments options
    let text ← available 0
    leave 0 []
    runSource run text
  | .file path arguments options => do
    modifyContext ({ · with line := 0 })
    match ← openFile .read path with
    | .error message => fail message
    | .ok .nowhere | .ok .directory => start path arguments options
    | .ok (.channel n) => do
      start path arguments options
      let text := (← channel n).contents
      setChannel n {}
      runSource run text
    | .ok _ => unknown

/-- The context of a shell that a process becomes. -/
def shellContext (name : String) (c : Context) (process : Nat) : Context :=
  { name, bindings := initialVariables (environment c), traps := c.traps.filter (·.2.isEmpty),
    descriptors := c.descriptors, directory := c.directory, process, shell := process }

/-- What files hold, as programs see them. -/
def filesFor (c : Context) (input : FileText) : Files where
  input := input
  file path :=
    if path = "/dev/null" then .text []
    else if path = "/dev/stdin" then input
    else match kindFrom? c.directory path with
      | some .directory => .directory
      | some _ => .unknown
      | none => .missing

/-- Runs a program that filters text. -/
def runFilter (name : String) (args : List String) : Script Nat := do
  let c ← context
  let input ← match c.descriptors.lookup 0 with
    | some .directory => pure .directory
    | some .full => unknown
    | none => unknown
    | _ => pure (FileText.text (← available 0))
  let result ← match name, args with
    | "printf", form :: args =>
      let p := printFormat form args
      if p.unknown || p.failure.isSome || !p.complaints.isEmpty then unknown
      pure (some { out := p.out : ToolResult })
    | _, _ => pure (runTool (filesFor c input) name args)
  match result with
  | none => unknown
  | some r =>
    if name ∉ ["seq", "basename", "dirname", "expr", "sleep", "yes", "true", "false", "echo", "printf",
        "ls"] then leave 0 []
    discard (write 2 r.err)
    if ← write 1 r.out then return r.status
    let reason := match c.descriptors.lookup 1 with
      | some _ => "No space left on device"
      | none => "Bad file descriptor"
    discard (write 2 (name ++ ": write error: " ++ reason ++ "\n").toList)
    return max r.status 1

/-- The name of a program that a path leads to. -/
def programName? (path : String) : Option String :=
  ["/bin/", "/usr/bin/"].findSome? fun dir =>
    if path.startsWith dir then
      let name := String.ofList (path.toList.drop dir.length)
      if name ∈ knownPrograms then some name else none
    else none

/-- Where a command that is no builtin leads: a program, or a complaint with a status. -/
def findProgram (name : String) : Script (Except (String × Nat) String) := do
  let c ← context
  if name.isEmpty then return .error (": Permission denied", 127)
  if '/' ∈ name.toList then
    let full := resolvePath c.directory name
    match programName? full with
    | some program => return .ok program
    | none =>
      if (kindFrom? c.directory name).isSome then return .error (name ++ ": Permission denied", 126)
      if !name.startsWith "/" && c.directory.isNone && name.startsWith ".." then unknown
      return .error (name ++ ": not found", 127)
  else
    match ← programPath? name knownPrograms with
    | some _ => return .ok name
    | none => return .error (name ++ ": not found", 127)

/-- Where a program leads that is looked for in the usual places if no others are named. -/
def findByDefault (name : String) : Script (Except (String × Nat) String) := do
  match ← valueOf? "PATH" with
  | some _ => findProgram name
  | none =>
    inContext (fun c => { c with bindings := put "PATH" { value := some "/bin:/usr/bin" } c.bindings })
      (fun before after => { after with bindings := before.bindings }) (findProgram name)

/-- The assignments that `env` is given, what it runs, and whether it starts from nothing. -/
def environmentArguments : List String → Option (Bool × List (String × String) × List String)
  | "-i" :: rest | "-" :: rest => (environmentArguments rest).map fun (_, more) => (true, more)
  | a :: rest =>
    match splitAssignment a with
    | (name, some value) =>
      (environmentArguments rest).map fun (clear, vs, rest) => (clear, (name, value) :: vs, rest)
    | (_, none) => if a.startsWith "-" then none else some (false, [], a :: rest)
  | [] => some (false, [], [])

/-- Runs a program; `inPlace` says that it takes the place of the process. -/
def runProgram (run : Command → Script Unit) (inPlace : Bool) :
    Nat → String → List String → Script Nat
  | 0, _, _ => unknown
  | depth + 1, name, args => do
    let base := ((name.splitOn "/").getLast?).getD name
    if base ∈ shellNames then
      let i := invocation name args {} false false
      let c ← context
      let process ← if inPlace then pure c.process else newProcess
      let (status, signal) ←
        runProcess process (shellContext name c process) (runShell run i) (endProcess run)
      match signal with
      | some n =>
        if inPlace then throw (.killed process n)
        reportSignal n
      | none => pure ()
      return status
    else if base = "env" then
      match environmentArguments args with
      | none => unknown
      | some (clear, vs, rest) =>
        let c ← context
        let old := if clear then [] else environment c
        let new := vs.foldl (fun env (name, value) =>
          put name { value := some value, exported := true } env) old
        match rest with
        | [] =>
          print (new.flatMap fun (name, v) => (name ++ "=" ++ v.value.getD "" ++ "\n").toList)
        | program :: rest =>
          inContext (fun c => { c with bindings := new }) (fun before after =>
            { after with bindings := before.bindings }) do
            match ← findByDefault program with
            | .ok found => runProgram run inPlace depth (if '/' ∈ program.toList then program else found) rest
            | .error (_, status) =>
              let reason := if status = 126 then "Permission denied" else "No such file or directory"
              discard (write 2 ("env: '" ++ program ++ "': " ++ reason ++ "\n").toList)
              return status
    else runFilter base args

/-- Runs a command by its name when it is no builtin and no function. -/
def runExternal (run : Command → Script Unit) (name : String) (args : List String) : Script Nat := do
  match ← findProgram name with
  | .ok found => runProgram run false (args.length + 1) (if '/' ∈ name.toList then name else found) args
  | .error (message, status) =>
    complain message
    return status

end Script

end ImageForge.Shell
