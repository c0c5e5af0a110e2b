import ImageForge.Text.Unprintable
/-!
Quoted texts, as messages show them: between double quotes, with a backslash before a quote or
a backslash, short escapes for the common controls, and `\u{…}` with the code point in hexadecimal
for what is not printable.
-/

namespace ImageForge.Text

/-- The lower-case hexadecimal digits of a number, most significant first. -/
def hexDigits (n : Nat) : List Char := Nat.toDigits 16 n

/-- How one character stands inside a quoted text. -/
def quoteChar (c : Char) : List Char :=
  match c with
  | '"' => ['\\', '"']
  | '\\' => ['\\', '\\']
  | '\n' => ['\\', 'n']
  | '\r' => ['\\', 'r']
  | '\t' => ['\\', 't']
  | '\x00' => ['\\', '0']
  | c =>
    if isUnprintable c then ['\\', 'u', '\x7b'] ++ hexDigits c.toNat ++ ['\x7d'] else [c]

/-- The quoted form of a text. -/
def quoteChars (cs : List Char) : List Char := '"' :: cs.flatMap quoteChar ++ ['"']

/-- The quoted form of a string. -/
def quote (s : String) : String := String.ofList (quoteChars s.toList)

end ImageForge.Text
