/-!
Blank characters and trimming. A text is a list of characters here; the functions on `String` at
the end are the ones the rest of the library uses.
-/

namespace ImageForge.Text

/-- A character is blank when Unicode gives it the property White_Space. -/
def isBlank (c : Char) : Bool :=
  let n := c.toNat
  (9 ≤ n && n ≤ 13) || n == 0x20 || n == 0x85 || n == 0xA0 || n == 0x1680 ||
    (0x2000 ≤ n && n ≤ 0x200A) || n == 0x2028 || n == 0x2029 || n == 0x202F || n == 0x205F ||
    n == 0x3000

/-- Drops the characters of class `p` from the end of a text. -/
def dropEnd (p : Char → Bool) (cs : List Char) : List Char :=
  (cs.reverse.dropWhile p).reverse

/-- Drops the characters of class `p` from both ends of a text. -/
def strip (p : Char → Bool) (cs : List Char) : List Char :=
  dropEnd p (cs.dropWhile p)

/-- The text without the blanks at its two ends. -/
def trim (s : String) : String := String.ofList (strip isBlank s.toList)

/-- The text without the characters of class `p` at its start. -/
def dropStart (p : Char → Bool) (s : String) : String := String.ofList (s.toList.dropWhile p)

/-- A text is blank when nothing is left of it after trimming. -/
def isBlankText (s : String) : Bool := (trim s).isEmpty

end ImageForge.Text
