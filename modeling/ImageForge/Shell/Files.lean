import ImageForge.Shell.Format
import ImageForge.Text.Pieces
/-!
Files as small programs read them, one after the other, and what such a program leaves behind.
-/

namespace ImageForge.Shell

structure ToolResult where
  out : List Char := []
  err : List Char := []
  status : Nat := 0
  deriving DecidableEq, Repr

/-- What a file that is named to a program holds. -/
inductive FileText
  | text (cs : List Char)
  | missing
  | directory
  | unknown
  deriving DecidableEq, Repr

/-- What programs can read. -/
structure Files where
  input : FileText
  file : String → FileText

def Files.read (fs : Files) (name : String) : FileText :=
  if name = "-" then fs.input else fs.file name

/-- The lines of a text, of which the last one may lack its newline. -/
def textLines (cs : List Char) : List (List Char) :=
  let lines := Text.pieces '\n' cs
  if lines.getLast? = some [] then lines.dropLast else lines

/-- A text of lines, each with its newline. -/
def ofTextLines (lines : List (List Char)) : List Char := lines.flatMap (· ++ ['\n'])

/-- A number that consists of digits. -/
def digitsValue? (cs : List Char) : Option Nat :=
  if !cs.isEmpty && cs.all Char.isDigit then some (readDigits 10 0 cs).1 else none

/-- An integer that consists of digits, after a minus sign perhaps. -/
def integerValue? (text : String) : Option Int :=
  match text.toList with
  | '-' :: ds => (digitsValue? ds).map fun n => -(n : Int)
  | ds => (digitsValue? ds).map fun n => (n : Int)

/-- Reads files one after the other, or the input when none is named; `blame` is the complaint about
a file with what is wrong with it. -/
def readFiles (fs : Files) (names : List String) (blame : String → String → String) (status : Nat) :
    Option ToolResult :=
  go {} false (if names.isEmpty then ["-"] else names)
where
  /-- The input has nothing left after it has been read. -/
  go (r : ToolResult) (inputRead : Bool) : List String → Option ToolResult
    | [] => some r
    | name :: names =>
      let complain := fun (reason : String) =>
        let err := r.err ++ (blame name reason ++ "\n").toList
        go { r with err, status } (inputRead || name == "-") names
      match if inputRead && name == "-" then .text [] else fs.read name with
      | .text cs => go { r with out := r.out ++ cs } (inputRead || name == "-") names
      | .missing => complain "No such file or directory"
      | .directory => complain "Is a directory"
      | .unknown => none

/-- Filters what the files hold. -/
def filterFiles (fs : Files) (name : String) (names : List String) (f : List Char → List Char) :
    Option ToolResult := do
  let r ← readFiles fs names (fun file reason => name ++ ": " ++ file ++ ": " ++ reason) 1
  some { r with out := f r.out }

def isOption (arg : String) : Bool := arg.startsWith "-" && arg ≠ "-"

/-- The options before the operands, without their dashes, and the operands. -/
def splitOptions (args : List String) : List String × List String :=
  let options := args.takeWhile fun a => isOption a && a ≠ "--"
  let rest := args.drop options.length
  (options.map fun o => String.ofList (o.toList.drop 1),
    if rest.head? = some "--" then rest.tail else rest)

end ImageForge.Shell
