/-!
When to look at which object. Each object is scheduled at most once, and a request that comes in
settles a while before the object is due, so that a burst of requests leads to one look.
-/

namespace ImageForge.Controller

/-- The objects that are due at some time, and those that fell due and wait until they can run. Times
are milliseconds. -/
structure Schedule (α : Type) where
  due : List (α × Nat) := []
  waiting : List α := []

namespace Schedule

variable {α : Type} [DecidableEq α]

def time? (s : Schedule α) (a : α) : Option Nat := (s.due.find? (·.1 = a)).map (·.2)

/-- The schedule without an object that was due. -/
def unschedule (s : Schedule α) (a : α) : Schedule α := { s with due := s.due.filter (·.1 ≠ a) }

/-- The schedule without an object that waited. -/
def unwait (s : Schedule α) (a : α) : Schedule α := { s with waiting := s.waiting.filter (· ≠ a) }

/-- Asks for a look at an object from a time on. A later request puts off a look that would not come
before that time; one that would is enough, and so is one that waits. -/
def request (settle : Nat) (s : Schedule α) (a : α) (time : Nat) : Schedule α :=
  let entry := (a, time + settle)
  if a ∈ s.waiting then s
  else match s.time? a with
    | none => { s with due := s.due ++ [entry] }
    | some t => if time ≤ t then { s.unschedule a with due := (s.unschedule a).due ++ [entry] } else s

/-- The object that is due first, with its time. -/
def first? (s : Schedule α) : Option (α × Nat) :=
  s.due.foldl (fun best e => match best with
    | none => some e
    | some b => if e.2 < b.2 then some e else some b) none

/-- Lets an object that is due wait. -/
def await (s : Schedule α) (a : α) : Schedule α :=
  let s := s.unschedule a
  { s with waiting := s.waiting ++ [a] }

end Schedule

end ImageForge.Controller
