/-!
Cutting a text at a separator and into lines.
-/

namespace ImageForge.Text

/-- The pieces between the occurrences of `sep`; a text without it is its own only piece. -/
def pieces (sep : Char) : List Char → List (List Char)
  | [] => [[]]
  | c :: cs =>
    if c = sep then [] :: pieces sep cs
    else match pieces sep cs with
      | [] => [[c]]
      | p :: ps => (c :: p) :: ps

/-- The pieces of a string between the occurrences of `sep`. -/
def splitAt (sep : Char) (s : String) : List String :=
  (pieces sep s.toList).map String.ofList

/-- A line without the one carriage return that may end it. -/
def dropReturn (line : List Char) : List Char :=
  match line.reverse with
  | '\r' :: rest => rest.reverse
  | _ => line

/-- The lines of a text: a newline ends a line, so what follows the last newline is a line only
when it is not empty. A carriage return before a newline belongs to the line end. -/
def lines (cs : List Char) : List (List Char) :=
  match (pieces '\n' cs).reverse with
  | [] => []
  | last :: ended =>
    (ended.map dropReturn).reverse ++ (if last.isEmpty then [] else [last])

theorem pieces_ne_nil (sep : Char) (cs : List Char) : pieces sep cs ≠ [] := by
  cases cs with
  | nil => simp [pieces]
  | cons c cs =>
    simp only [pieces]
    split
    · simp
    · split <;> simp

end ImageForge.Text
