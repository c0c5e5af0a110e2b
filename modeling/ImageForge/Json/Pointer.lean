import ImageForge.Json.Basic
import ImageForge.Text.Pieces
/-!
Pointers into documents: keys and positions, each after a slash.
-/

namespace ImageForge.Json

/-- A step of a pointer; `~1` stands for a slash and `~0` for a tilde. -/
def unescapeStep : List Char → List Char
  | '~' :: '1' :: cs => '/' :: unescapeStep cs
  | '~' :: '0' :: cs => '~' :: unescapeStep cs
  | c :: cs => c :: unescapeStep cs
  | [] => []

/-- A position in a list, without leading zeros. -/
def position? : List Char → Option Nat
  | [] => none
  | ['0'] => some 0
  | '0' :: _ => none
  | cs =>
    if cs.all Char.isDigit then some (cs.foldl (fun n c => n * 10 + (c.toNat - '0'.toNat)) 0)
    else none

/-- The entry of a document for one step. -/
def child? (step : List Char) : Json → Option Json
  | .obj fields => lookup (String.ofList step) fields
  | .arr items => (position? step).bind (items[·]?)
  | _ => none

def descend? : List (List Char) → Json → Option Json
  | [], v => some v
  | step :: steps, v => (child? (unescapeStep step) v).bind (descend? steps)

/-- The part of a document that a pointer names. The empty pointer names the whole. -/
def atPointer? (pointer : String) (v : Json) : Option Json :=
  match pointer.toList with
  | [] => some v
  | '/' :: cs => descend? (Text.pieces '/' cs) v
  | _ => none

end ImageForge.Json
