import ImageForge.Proofs.Cluster.Running

/-! Two programs that take turns on one cluster. When the change of neither hides from the other what it
sees, the order of the turns does not matter. -/
namespace ImageForge.Cluster

variable {α β : Type}

/-- One turn of a program: it makes its next call, unless it is over. -/
def Program.advance (s : Store) : Program α → Option (Program α × Store)
  | .done a => some (.done a, s)
  | .call r next => (s.answer r).map fun answered => (next answered.1, answered.2)

/-- Runs two programs on one store: each turn is for the first of them or for the second, and when the
turns are used up the first is finished, then the second. Gives both results and the store behind
them. -/
def takeTurns (turns : List Bool) (s : Store) (p : Program α) (q : Program β) :
    Option (α × β × Store) :=
  match turns with
  | [] =>
    match (p.run s).result, (q.run (p.run s).store).result with
    | some a, some b => some (a, b, (q.run (p.run s).store).store)
    | _, _ => none
  | true :: turns => (p.advance s).bind fun moved => takeTurns turns moved.2 moved.1 q
  | false :: turns => (q.advance s).bind fun moved => takeTurns turns moved.2 p moved.1

def Store.after (s : Store) : Option Request → Store
  | none => s
  | some r => (s.perform r).2

/-- Wherever a program sees the same, it looks at the same things, makes the same change at most, with
its last call, and ends with the same result. -/
inductive Foretold (sees : Store → Prop) : Program α → α → Option Request → Prop
  | ended (result : α) : Foretold sees (.done result) result none
  | look {r : Request} {next : Answer r → Program α} {result : α} {change : Option Request}
      (x : r.Reply) (same : ∀ s, sees s → Store.Success s r x s)
      (rest : Foretold sees (next (.ok x)) result change) :
      Foretold sees (.call r next) result change
  | change {r : Request} {next : Answer r → Program α} {result : α} (x : r.Reply)
      (possible : ∀ s, sees s → ∃ t, Store.Success s r x t)
      (last : next (.ok x) = .done result) : Foretold sees (.call r next) result (some r)

variable {sees sees' : Store → Prop} {s t : Store} {r : Request} {p : Program α} {q : Program β}
  {a : α} {b : β} {change change' : Option Request}

theorem Store.after_of_success {x : r.Reply} (h : Success s r x t) : s.after (some r) = t :=
  congrArg Prod.snd (perform_of_success h)

theorem Foretold.ends (h : Foretold sees p a change) (hq : s.Quiet) (hs : sees s) :
    Ends s p a (s.after change) := by
  induction h with
  | ended result => exact ends_done_iff.mpr ⟨rfl, rfl⟩
  | look x same _ ih => exact .call hq (same s hs) ih
  | change x possible last =>
    obtain ⟨t, ht⟩ := possible s hs
    refine .call hq ht ?_
    rw [last]
    exact ends_done_iff.mpr ⟨rfl, (Store.after_of_success ht).symm⟩

/-- In a turn it looks at something, or makes its change and is over. -/
theorem Foretold.advance (h : Foretold sees p a change) (hq : s.Quiet) (hs : sees s) :
    (∃ p', p.advance s = some (p', s) ∧ Foretold sees p' a change) ∨
      p.advance s = some (.done a, s.after change) := by
  cases h with
  | ended result => exact Or.inr rfl
  | @look r next _ _ x same rest =>
    refine Or.inl ⟨next (.ok x), ?_, rest⟩
    simp [Program.advance, hq.answer_eq (same s hs)]
  | change x possible last =>
    obtain ⟨t, ht⟩ := possible s hs
    refine Or.inr ?_
    simp [Program.advance, hq.answer_eq ht, last, Store.after_of_success ht]

theorem Store.Quiet.after (h : s.Quiet) (change : Option Request) : (s.after change).Quiet := by
  cases change with
  | none => exact h
  | some r =>
    cases hp : s.perform r with
    | mk answer t =>
      rw [Store.after, hp]
      cases answer with
      | error e =>
        rw [Store.store_of_perform_error hp]
        exact h
      | ok x => exact h.of_success (Store.success_of_perform hp)

/-- Two foretold programs whose changes leave each other what it sees end as foretold, whatever their
turns are, and one change comes after the other. -/
theorem takeTurns_foretold (turns : List Bool) (hp : Foretold sees p a change)
    (hq : Foretold sees' q b change') (quiet : s.Quiet) (hs : sees s) (hs' : sees' s)
    (spares : ∀ t, sees t → sees' t → sees' (t.after change))
    (spares' : ∀ t, sees t → sees' t → sees (t.after change')) :
    ∃ u, takeTurns turns s p q = some (a, b, u) ∧
      (u = (s.after change).after change' ∨ u = (s.after change').after change) := by
  induction turns generalizing sees sees' s p q change change' with
  | nil =>
    have hfirst := hp.ends quiet hs
    have hsecond := hq.ends (quiet.after change) (spares s hs hs')
    refine ⟨_, ?_, Or.inl rfl⟩
    simp [takeTurns, hfirst.result, hfirst.store, hsecond.result, hsecond.store]
  | cons first turns ih =>
    cases first with
    | true =>
      obtain ⟨p', hmoved, hp'⟩ | hmoved := hp.advance quiet hs
      · obtain ⟨u, hu, horder⟩ := ih hp' hq quiet hs hs' spares spares'
        exact ⟨u, by simp [takeTurns, hmoved, hu], horder⟩
      · -- The first program is over, and sees nothing that it still needs.
        have hover : Foretold (fun _ => True) (.done a : Program α) a none := .ended a
        obtain ⟨u, hu, horder⟩ := ih hover hq (quiet.after change) trivial (spares s hs hs')
          (fun _ _ ht => ht) (fun _ _ _ => trivial)
        exact ⟨u, by simp [takeTurns, hmoved, hu], Or.inl (horder.elim id id)⟩
    | false =>
      obtain ⟨q', hmoved, hq'⟩ | hmoved := hq.advance quiet hs'
      · obtain ⟨u, hu, horder⟩ := ih hp hq' quiet hs hs' spares spares'
        exact ⟨u, by simp [takeTurns, hmoved, hu], horder⟩
      · have hover : Foretold (fun _ => True) (.done b : Program β) b none := .ended b
        obtain ⟨u, hu, horder⟩ := ih hp hover (quiet.after change') (spares' s hs hs') trivial
          (fun _ _ _ => trivial) (fun _ ht _ => ht)
        exact ⟨u, by simp [takeTurns, hmoved, hu], Or.inr (horder.elim id id)⟩

end ImageForge.Cluster
