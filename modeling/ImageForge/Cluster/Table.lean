/-!
Objects under their namespace and name.
-/

namespace ImageForge.Cluster

structure Key where
  ns : String
  name : String
  deriving DecidableEq, Repr

/-- The namespace and the name with a slash between. -/
def Key.text (k : Key) : String := k.ns ++ "/" ++ k.name

abbrev Table (α : Type) := List (Key × α)

namespace Table

variable {α : Type}

def get? (t : Table α) (k : Key) : Option α := (t.find? (·.1 = k)).map (·.2)

/-- Stores an object, in the place of the one under the same key. -/
def put (t : Table α) (k : Key) (a : α) : Table α :=
  match t with
  | [] => [(k, a)]
  | (k', a') :: rest => if k' = k then (k, a) :: rest else (k', a') :: put rest k a

def erase (t : Table α) (k : Key) : Table α := t.filter (·.1 ≠ k)

/-- Keeps the objects that satisfy a condition. -/
def keep (t : Table α) (p : α → Bool) : Table α := t.filter (p ·.2)

@[simp]
theorem get?_nil (k : Key) : get? ([] : Table α) k = none := rfl

@[simp]
theorem get?_put_self (t : Table α) (k : Key) (a : α) : (t.put k a).get? k = some a := by
  induction t with
  | nil => simp [put, get?]
  | cons e t ih =>
    obtain ⟨k', a'⟩ := e
    by_cases h : k' = k
    · simp [put, get?, h]
    · simpa [put, get?, h, List.find?_cons] using ih

theorem get?_put_of_ne {k k' : Key} (h : k' ≠ k) (t : Table α) (a : α) :
    (t.put k a).get? k' = t.get? k' := by
  have hk : ¬ k = k' := fun e => h e.symm
  induction t with
  | nil => simp [put, get?, hk]
  | cons e t ih =>
    obtain ⟨k₁, a₁⟩ := e
    by_cases h₁ : k₁ = k
    · subst h₁
      simp [put, get?, hk]
    · by_cases h₂ : k₁ = k'
      · subst h₂
        simp [put, get?, h]
      · simpa [put, get?, h₁, h₂, List.find?_cons] using ih

@[simp]
theorem get?_erase_self (t : Table α) (k : Key) : (t.erase k).get? k = none := by
  simp [erase, get?, List.find?_eq_none]

end Table

end ImageForge.Cluster
