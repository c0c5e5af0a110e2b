import ImageForge.Json.Equality
/-!
The compact text of a document: no blanks, and in texts only the quote, the backslash and the
characters below the space are escaped.
-/

namespace ImageForge.Json

/-- One of the sixteen lower-case hexadecimal digits. -/
def hexDigit (n : Nat) : Char := Nat.digitChar (n % 16)

/-- How one character stands inside the text of a document. -/
def escapeChar (c : Char) : List Char :=
  match c with
  | '"' => ['\\', '"']
  | '\\' => ['\\', '\\']
  | '\x08' => ['\\', 'b']
  | '\t' => ['\\', 't']
  | '\n' => ['\\', 'n']
  | '\x0c' => ['\\', 'f']
  | '\r' => ['\\', 'r']
  | c =>
    if c.toNat < 0x20 then ['\\', 'u', '0', '0', hexDigit (c.toNat / 16), hexDigit c.toNat]
    else [c]

def textChars (s : String) : List Char := '"' :: s.toList.flatMap escapeChar ++ ['"']

/-- The decimal digits of an integer, with a minus sign when it is negative. -/
def intChars (n : Int) : List Char :=
  (if n < 0 then ['-'] else []) ++ Nat.toDigits 10 n.natAbs

def numberChars : JsonNumber → List Char
  | .int n => intChars n
  | .real b => b.documentChars

mutual

/-- The characters of a document. -/
def chars : Json → List Char
  | .null => "null".toList
  | .bool true => "true".toList
  | .bool false => "false".toList
  | .num n => numberChars n
  | .str s => textChars s
  | .arr items => '[' :: itemsChars items ++ [']']
  | .obj fields => '\x7b' :: fieldsChars fields ++ ['\x7d']

/-- The characters of list items, a comma between any two. -/
def itemsChars : List Json → List Char
  | [] => []
  | [x] => chars x
  | x :: y :: rest => chars x ++ ',' :: itemsChars (y :: rest)

/-- The characters of object entries, a comma between any two. -/
def fieldsChars : List (String × Json) → List Char
  | [] => []
  | [(k, v)] => textChars k ++ ':' :: chars v
  | (k, v) :: f :: rest => textChars k ++ ':' :: chars v ++ ',' :: fieldsChars (f :: rest)

end

/-- The compact text of a document. -/
def render (v : Json) : String := String.ofList (chars v)

end ImageForge.Json
