/-!
Reading bytes as UTF-8. What is not a well-formed sequence becomes the replacement character, one
for each longest run of bytes that could still have begun a sequence.
-/

namespace ImageForge.Text.Utf8

/-- The character that stands for bytes without a meaning. -/
def replacement : Char := Char.ofNat 0xFFFD

/-- The lead byte of a sequence of several bytes: its payload, how many bytes follow, and the
range of the first of those, which excludes overlong forms, surrogates and code points that are
too large. -/
def lead? (b : Nat) : Option (Nat × Nat × Nat × Nat) :=
  if 0xC2 ≤ b && b ≤ 0xDF then some (b - 0xC0, 1, 0x80, 0xBF)
  else if b == 0xE0 then some (0, 2, 0xA0, 0xBF)
  else if b == 0xED then some (0xD, 2, 0x80, 0x9F)
  else if 0xE1 ≤ b && b ≤ 0xEF then some (b - 0xE0, 2, 0x80, 0xBF)
  else if b == 0xF0 then some (0, 3, 0x90, 0xBF)
  else if 0xF1 ≤ b && b ≤ 0xF3 then some (b - 0xF0, 3, 0x80, 0xBF)
  else if b == 0xF4 then some (4, 3, 0x80, 0x8F)
  else none

/-- A sequence that has begun: the payload read so far, how many bytes are still to come and the
range of the next. -/
structure Open where
  payload : Nat
  missing : Nat
  low : Nat
  high : Nat
  deriving DecidableEq, Repr

/-- What one byte does outside any sequence: it ends a character, begins a sequence, or neither
(`none`). -/
def start (b : Nat) : Option (Char ⊕ Open) :=
  if b < 0x80 then some (.inl (Char.ofNat b))
  else (lead? b).map fun (payload, missing, low, high) => .inr ⟨payload, missing, low, high⟩

/-- Decodes bytes from a state, giving `none` for each run without a meaning. -/
def scan : Option Open → List UInt8 → List (Option Char)
  | none, [] => []
  | some _, [] => [none]
  | none, b :: bs =>
    match start b.toNat with
    | none => none :: scan none bs
    | some (.inl c) => some c :: scan none bs
    | some (.inr o) => scan (some o) bs
  | some o, b :: bs =>
    let n := b.toNat
    if o.low ≤ n && n ≤ o.high then
      let payload := o.payload * 64 + (n - 0x80)
      if o.missing ≤ 1 then some (Char.ofNat payload) :: scan none bs
      else scan (some ⟨payload, o.missing - 1, 0x80, 0xBF⟩) bs
    else
      match start n with
      | none => none :: none :: scan none bs
      | some (.inl c) => none :: some c :: scan none bs
      | some (.inr o) => none :: scan (some o) bs

/-- The text of the bytes, with the replacement character for every run without a meaning. -/
def decodeLossy (bs : List UInt8) : String :=
  String.ofList ((scan none bs).map (·.getD replacement))

/-- The text of the bytes when they are well-formed UTF-8. -/
def decode? (bs : List UInt8) : Option String :=
  ((scan none bs).mapM id).map String.ofList

end ImageForge.Text.Utf8
