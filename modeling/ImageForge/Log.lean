import ImageForge.Text.Pieces
import ImageForge.Text.Quoted
/-!
Log entries and their lines.
-/

namespace ImageForge

inductive LogLevel
  | debug
  | info
  | warn
  | error
  deriving DecidableEq, Repr

namespace LogLevel

def name : LogLevel → String
  | .debug => "DEBUG"
  | .info => "INFO"
  | .warn => "WARN"
  | .error => "ERROR"

/-- How much has to be shown for entries of a level to be shown; 0 shows nothing and 5 all. -/
def verbosity : LogLevel → Nat
  | .error => 1
  | .warn => 2
  | .info => 3
  | .debug => 4

end LogLevel

/-- An entry: its level, the part of the program it comes from, a message and named values. -/
structure LogEntry where
  level : LogLevel
  target : String
  message : String
  fields : List (String × String) := []
  deriving DecidableEq, Repr

namespace LogEntry

/-- How a character of a message is written. A control that a terminal obeys is shown by its code. -/
def messageChar (c : Char) : List Char :=
  let n := c.toNat
  if n = 0x1B ∨ n = 0x7 ∨ n = 0x8 ∨ n = 0xC ∨ n = 0x7F then
    ['\\', 'x', Nat.digitChar (n / 16), Nat.digitChar (n % 16)]
  else if 0x80 ≤ n ∧ n ≤ 0x9F then ['\\', 'u', '\x7b'] ++ Text.hexDigits n ++ ['\x7d']
  else [c]

/-- The text of an entry, with its message made harmless and its values as they are. -/
def text (e : LogEntry) : String :=
  String.intercalate " "
    ([e.level.name, e.target ++ ":", String.ofList (e.message.toList.flatMap messageChar)] ++
      e.fields.map fun f => f.1 ++ "=" ++ f.2)

/-- The lines that some entries take; a message or a value may hold line ends. -/
def lines (log : List LogEntry) : List String :=
  (Text.lines (log.flatMap fun e => e.text.toList ++ ['\n'])).map String.ofList

end LogEntry

end ImageForge
