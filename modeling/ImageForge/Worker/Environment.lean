import ImageForge.Json.Reader
import ImageForge.Resource.Spec
import ImageForge.Text.Blank
import ImageForge.Text.Pieces
import ImageForge.Worker.Command
import ImageForge.Worker.Contract
/-!
The order of a build, read from variables. Values are trimmed, and a value that is blank counts as
not set.
-/

namespace ImageForge.Worker

/-- A repository that is checked out before provisioning. -/
structure SourceRepo where
  url : String
  branch : String
  deriving DecidableEq, Repr

/-- A playbook, relative to the checkout, and its extra variables as they were given. -/
structure Playbook where
  path : String
  extraVars : Option String
  deriving DecidableEq, Repr

/-- All that a build needs to know. -/
structure Environment where
  baseImage : String
  arch : Architecture
  outputFilename : String
  formats : List ArtifactFormat
  source : Option SourceRepo
  playbook : Option Playbook
  deriving DecidableEq, Repr

/-- A path leaves its directory when one of its components is `..`. -/
def leavesDirectory (path : String) : Bool := ".." ∈ Text.splitAt '/' path

/-- The variables, trimmed and without the blank ones. -/
def settings (lookup : String → Option String) (key : String) : Option String :=
  ((lookup key).map Text.trim).filter (!·.isEmpty)

/-- The formats of a list separated by commas, without repetitions; an empty list asks for the
archive. -/
def parseFormats (text : String) : Except BuildError (List ArtifactFormat) := do
  let items := ((Text.splitAt ',' text).map Text.trim).filter (!·.isEmpty)
  let formats ← items.mapM fun item =>
    match ArtifactFormat.parse item with
    | .ok f => .ok f
    | .error e => .error (.invalidVariable outputFormatsVar e.message)
  return match ArtifactFormat.distinct formats with
    | [] => [.tgz]
    | fs => fs

namespace Environment

def readBaseImage (get : String → Option String) : Except BuildError String :=
  match get baseImageVar with
  | some image => .ok image
  | none => .error (.missingVariable baseImageVar)

def readArchitecture (get : String → Option String) : Except BuildError Architecture :=
  match get architectureVar with
  | none => .error (.missingVariable architectureVar)
  | some text =>
    match Architecture.parse text with
    | .ok arch => .ok arch
    | .error e => .error (.invalidVariable architectureVar e.message)

def readFormats (get : String → Option String) : Except BuildError (List ArtifactFormat) :=
  match get outputFormatsVar with
  | some text => parseFormats text
  | none => .ok [.tgz]

def readSource (get : String → Option String) : Option SourceRepo :=
  (get gitRepoVar).map fun url => ⟨url, (get gitBranchVar).getD defaultGitBranch⟩

/-- Extra variables must be one document; they are handed on as they are. -/
def readExtraVars (get : String → Option String) : Except BuildError (Option String) :=
  match get extraVarsVar with
  | none => .ok none
  | some text =>
    match Json.parse? text with
    | some _ => .ok (some text)
    | none => .error (.invalidVariable extraVarsVar "not a document")

/-- A playbook needs a repository and stays inside its checkout. -/
def readPlaybook (get : String → Option String) : Except BuildError (Option Playbook) :=
  match get playbookVar with
  | none => .ok none
  | some path =>
    if (get gitRepoVar).isNone then
      .error (.invalidVariable playbookVar ("set without " ++ gitRepoVar))
    else if leavesDirectory path then
      .error (.invalidVariable playbookVar (Text.quote path ++ " leaves the source checkout"))
    else (readExtraVars get).map fun extra => some ⟨path, extra⟩

/-- Reads an order; the first requirement that is violated is reported. -/
def read (lookup : String → Option String) : Except BuildError Environment := do
  let get := settings lookup
  let baseImage ← readBaseImage get
  let arch ← readArchitecture get
  let formats ← readFormats get
  let playbook ← readPlaybook get
  let outputFilename := (get outputFilenameVar).getD defaultOutputFilename
  return ⟨baseImage, arch, outputFilename, formats, readSource get, playbook⟩

/-- A disk image is made only when it is asked for; the archive always is. -/
def wantsDiskImage (e : Environment) : Bool := .qcow2 ∈ e.formats

end Environment

end ImageForge.Worker
