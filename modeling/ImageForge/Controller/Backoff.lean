/-!
Retry delays that grow like the Fibonacci numbers, up to a bound. Seconds are words of 64 bits.
-/

namespace ImageForge.Controller

/-- The delay that comes next, the one before it, and the bound. -/
structure Backoff where
  previous : UInt64
  current : UInt64
  bound : UInt64
  deriving DecidableEq, Repr

namespace Backoff

def new (least most : UInt64) : Backoff := ⟨0, least, most⟩

/-- The next delay, and the state after it. -/
def next (b : Backoff) : UInt64 × Backoff :=
  (b.current, ⟨b.current, min (b.previous + b.current) b.bound, b.bound⟩)

/-- The next `n` delays. -/
def delays : Nat → Backoff → List UInt64
  | 0, _ => []
  | n + 1, b => b.next.1 :: delays n b.next.2

end Backoff

end ImageForge.Controller
