import ImageForge.Text.Quoted
/-!
The commands of a build, and what can go wrong in a build.
-/

namespace ImageForge.Worker

/-- A program with its arguments; `capture` says that its output names a resource. -/
structure Command where
  program : String
  args : List String
  capture : Bool := false
  deriving DecidableEq, Repr

/-- The program and its arguments, separated by blanks. -/
def Command.line (c : Command) : String := String.intercalate " " (c.program :: c.args)

/-- Why a program does not start. -/
inductive StartFailure
  | noSuchFile
  | argumentsTooLong
  | permissionDenied
  | notDirectory
  | nameTooLong
  /-- The program or an argument holds a character that ends texts for the system. -/
  | containsNull
  deriving DecidableEq, Repr

namespace StartFailure

/-- The number that the system has for a failure, and its kind. -/
def system? : StartFailure → Option (Nat × String)
  | .noSuchFile => some (2, "NotFound")
  | .argumentsTooLong => some (7, "ArgumentListTooLong")
  | .permissionDenied => some (13, "PermissionDenied")
  | .notDirectory => some (20, "NotADirectory")
  | .nameTooLong => some (36, "InvalidFilename")
  | .containsNull => none

def reason : StartFailure → String
  | .noSuchFile => "No such file or directory"
  | .argumentsTooLong => "Argument list too long"
  | .permissionDenied => "Permission denied"
  | .notDirectory => "Not a directory"
  | .nameTooLong => "File name too long"
  | .containsNull => "nul byte found in provided data"

def message (f : StartFailure) : String :=
  match f.system? with
  | some (code, _) => f.reason ++ " (os error " ++ toString code ++ ")"
  | none => f.reason

/-- The failure as a diagnostic shows it. -/
def diagnostic (f : StartFailure) : String :=
  match f.system? with
  | some (code, kind) =>
    "Os \x7b code: " ++ toString code ++ ", kind: " ++ kind ++ ", message: " ++ Text.quote f.reason ++
      " \x7d"
  | none => "Error \x7b kind: InvalidInput, message: " ++ Text.quote f.reason ++ " \x7d"

end StartFailure

/-- Why a build stops. -/
inductive BuildError
  | missingVariable (name : String)
  | invalidVariable (name reason : String)
  | notStarted (program : String) (reason : StartFailure)
  | commandFailed (command status stderr : String)
  | emptyOutput (command : String)
  deriving DecidableEq, Repr

namespace BuildError

def message : BuildError → String
  | .missingVariable name => "missing required environment variable " ++ name
  | .invalidVariable name reason => "invalid value for " ++ name ++ ": " ++ reason
  | .notStarted program reason => "failed to start " ++ program ++ ": " ++ reason.message
  | .commandFailed command status stderr =>
    "`" ++ command ++ "` failed (" ++ status ++ "): " ++ stderr
  | .emptyOutput command => "`" ++ command ++ "` printed no output"

/-- The error as a diagnostic shows it: the kind of error with its parts, texts quoted. -/
def diagnostic : BuildError → String
  | .missingVariable name => "MissingEnv(" ++ Text.quote name ++ ")"
  | .invalidVariable name reason =>
    "InvalidEnv \x7b name: " ++ Text.quote name ++ ", reason: " ++ Text.quote reason ++ " \x7d"
  | .notStarted program reason =>
    "Spawn \x7b program: " ++ Text.quote program ++ ", source: " ++ reason.diagnostic ++ " \x7d"
  | .commandFailed command status stderr =>
    "CommandFailed \x7b command: " ++ Text.quote command ++ ", status: " ++ Text.quote status ++
      ", stderr: " ++ Text.quote stderr ++ " \x7d"
  | .emptyOutput command => "EmptyOutput(" ++ Text.quote command ++ ")"

end BuildError

end ImageForge.Worker
