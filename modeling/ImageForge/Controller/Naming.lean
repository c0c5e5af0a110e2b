import ImageForge.Hash.Sha256
import ImageForge.Text.Blank
/-!
Names that fit into a label. A value that is too long is cut and marked with a part of its digest, so
that distinct values keep distinct names.
-/

namespace ImageForge.Controller

/-- How every builder job name begins. -/
def builderJobPrefix : String := "imgbldr-"

/-- The greatest length of a label value, in bytes. -/
def maxLabelLength : Nat := 63

/-- How many bytes of the digest mark a shortened value. -/
def markBytes : Nat := 5

/-- How many characters of a shortened value are kept at most. -/
def keptLength : Nat := maxLabelLength - 2 * markBytes - 1

/-- Bytes in hexadecimal, two digits each. -/
def hexBytes (bytes : List UInt8) : List Char :=
  bytes.flatMap fun b => [Nat.digitChar (b.toNat / 16), Nat.digitChar (b.toNat % 16)]

/-- The characters that a label value does not end with. -/
def isSeparator (c : Char) : Bool := c == '-' || c == '.' || c == '_'

/-- The mark of a value: the start of its digest. -/
def mark (value : String) : List Char :=
  hexBytes ((Hash.Sha256.digest value.toUTF8.toList).take markBytes)

/-- A value that fits into a label: itself when it is short enough, else its start and its mark. -/
def fitLabel (value : String) : String :=
  if value.utf8ByteSize ≤ maxLabelLength then value
  else
    String.ofList
      (Text.dropEnd isSeparator (value.toList.take keptLength) ++ '-' :: mark value)

/-- The name of the builder job of an image build. -/
def builderJobName (name : String) : String := fitLabel (builderJobPrefix ++ name)

end ImageForge.Controller
