import ImageForge.Json.Shape
import ImageForge.Proofs.Json.Fields

/-! The normal form of an object, told by what is found in the object itself. -/
namespace ImageForge

namespace Json

variable {key : String} {value : Json} {fields fields' : List (String × Json)}

theorem lookup_of_before (h : ∀ f ∈ fields, key < f.1) : lookup key fields = none := by
  refine lookup_eq_none_iff.mpr fun hmem => ?_
  obtain ⟨f, hf, hkey⟩ := List.mem_map.mp hmem
  exact absurd hkey (ne_of_gt (h f hf))

theorem Ordered.ext (h : Ordered fields) (h' : Ordered fields')
    (hsame : ∀ name, lookup name fields = lookup name fields') : fields = fields' := by
  induction fields generalizing fields' with
  | nil =>
    cases fields' with
    | nil => rfl
    | cons f' _ =>
      have hfound := hsame f'.1
      rw [lookup_cons, if_pos rfl] at hfound
      cases hfound
  | cons f rest ih =>
    obtain ⟨k, v⟩ := f
    obtain ⟨hfirst, hrest⟩ := List.pairwise_cons.mp h
    cases fields' with
    | nil =>
      have hfound := hsame k
      rw [lookup_cons, if_pos rfl] at hfound
      cases hfound
    | cons f' rest' =>
      obtain ⟨k', v'⟩ := f'
      obtain ⟨hfirst', hrest'⟩ := List.pairwise_cons.mp h'
      -- A first key that came before the other one would be found on one side only.
      have hkey : k = k' := by
        rcases lt_trichotomy k k' with hlt | heq | hgt
        · have hfound := hsame k
          rw [lookup_cons, if_pos rfl, lookup_of_before] at hfound
          · cases hfound
          · exact fun e he => (List.mem_cons.mp he).elim (fun h => h ▸ hlt)
              fun he => lt_trans hlt (hfirst' e he)
        · exact heq
        · have hfound := hsame k'
          rw [lookup_cons (k := k'), if_pos rfl, lookup_of_before] at hfound
          · cases hfound
          · exact fun e he => (List.mem_cons.mp he).elim (fun h => h ▸ hgt)
              fun he => lt_trans hgt (hfirst e he)
      subst hkey
      have hvalue := hsame k
      simp only [lookup_cons, if_true, Option.some.injEq] at hvalue
      rw [hvalue, ih hrest hrest' fun name => ?_]
      by_cases hname : k = name
      · rw [← hname, lookup_of_before hfirst, lookup_of_before hfirst']
      · simpa [lookup_cons, hname] using hsame name

theorem without_insert {names : List String} (h : key ∈ names) (value : Json)
    (fields : List (String × Json)) :
    without names (insert key value fields) = without names fields := by
  induction fields with
  | nil => simp [insert, without, h]
  | cons f fields ih =>
    obtain ⟨k, v⟩ := f
    unfold insert
    split
    next hk =>
      subst hk
      simp [without, h]
    next =>
      split
      · simp [without, h]
      · simp only [without, List.filter_cons] at ih ⊢
        rw [ih]

end Json

namespace Shape

open Json

variable {parts : List (String × Bool × Shape)} {fields fields' found normal : List (String × Json)}
  {name : String} {needed unique : Bool} {shape : Shape} {v v' : Json}

def members : Shape → List (String × Bool × Shape)
  | .object _ fields => fields
  | _ => []

/-- What stands for a field in the normal form, by what is found of it. -/
def normalField? (needed : Bool) (shape : Shape) : Option Json → Option (Option Json)
  | none => some (if needed then some (blank shape) else none)
  | some v =>
    if v = .null ∧ shape.admitsNull then some (if needed then some (blank shape) else none)
    else (shape.normal? v).map some

theorem normalFields?_cons (name : String) (needed : Bool) (shape : Shape)
    (rest : List (String × Bool × Shape)) (fields : List (String × Json)) :
    normalFields? ((name, needed, shape) :: rest) fields =
      (normalField? needed shape (lookup name fields)).bind fun own =>
        (normalFields? rest fields).map fun others => (own.map (name, ·)).toList ++ others := by
  rw [normalFields?]
  unfold normalField?
  cases lookup name fields with
  | none => cases needed <;> cases normalFields? rest fields <;> rfl
  | some v =>
    dsimp only
    split
    · cases needed <;> cases normalFields? rest fields <;> rfl
    · cases normal? shape v <;> cases normalFields? rest fields <;> rfl

/-- The fields of the normal form of an object. -/
structure NormalFields (parts : List (String × Bool × Shape)) (fields normal : List (String × Json)) :
    Prop where
  ordered : Ordered normal
  told : ∀ name needed shape, (name, needed, shape) ∈ parts →
    normalField? needed shape (lookup name fields) = some (lookup name normal)
  dropped : ∀ name, name ∉ parts.map (·.1) → lookup name normal = none

theorem normalFields?_spec (hn : (parts.map (·.1)).Nodup)
    (h : normalFields? parts fields = some found) :
    (found.map (·.1)).Sublist (parts.map (·.1)) ∧
      ∀ name needed shape, (name, needed, shape) ∈ parts →
        normalField? needed shape (lookup name fields) = some (lookup name found) := by
  induction parts generalizing found with
  | nil =>
    rw [normalFields?] at h
    cases h
    exact ⟨List.Sublist.refl _, fun _ _ _ hmem => by cases hmem⟩
  | cons f rest ih =>
    obtain ⟨name, needed, shape⟩ := f
    obtain ⟨hnew, hrest⟩ := List.nodup_cons.mp hn
    rw [normalFields?_cons] at h
    obtain ⟨own, hown, h⟩ := Option.bind_eq_some_iff.mp h
    obtain ⟨others, hothers, rfl⟩ := Option.map_eq_some_iff.mp h
    obtain ⟨hsub, hfound⟩ := ih hrest hothers
    have hgone : lookup name others = none :=
      lookup_eq_none_iff.mpr fun hmem => hnew (hsub.mem hmem)
    constructor
    · cases own with
      | none => exact hsub.cons name
      | some v => exact hsub.cons_cons name
    · intro name' needed' shape' hmem
      rcases List.mem_cons.mp hmem with heq | hmem
      · cases heq
        rw [hown]
        cases own with
        | none => simp [hgone]
        | some v => simp [lookup_cons]
      · have hne : name ≠ name' := by
          rintro rfl
          exact hnew (List.mem_map.mpr ⟨_, hmem, rfl⟩)
        rw [hfound name' needed' shape' hmem]
        cases own with
        | none => rfl
        | some v => simp [lookup_cons, hne]

theorem exists_normalFields? (h : ∀ name needed shape, (name, needed, shape) ∈ parts →
    ∃ own, normalField? needed shape (lookup name fields) = some own) :
    ∃ found, normalFields? parts fields = some found := by
  induction parts with
  | nil => exact ⟨[], by rw [normalFields?]⟩
  | cons f rest ih =>
    obtain ⟨name, needed, shape⟩ := f
    obtain ⟨own, hown⟩ := h name needed shape List.mem_cons_self
    obtain ⟨others, hothers⟩ := ih fun n b s hmem => h n b s (List.mem_cons_of_mem _ hmem)
    exact ⟨_, by rw [normalFields?_cons, hown, hothers]; rfl⟩

theorem normal?_object_iff (hn : (parts.map (·.1)).Nodup) :
    normal? (.object unique parts) (.obj fields) = some v ↔
      ∃ normal, v = .obj normal ∧ NormalFields parts fields normal := by
  have hfields : ∀ found, normalFields? parts fields = some found →
      NormalFields parts fields (fieldsOf (.ofEntries found)) := by
    intro found hfound
    obtain ⟨hsub, htold⟩ := normalFields?_spec hn hfound
    have hlookup := lookup_ofEntries (hn.sublist hsub)
    refine ⟨ordered_ofEntries found, fun name needed shape hmem => ?_, fun name hmem => ?_⟩
    · rw [hlookup, htold name needed shape hmem]
    · rw [hlookup]
      exact lookup_eq_none_iff.mpr fun hin => hmem (hsub.mem hin)
  constructor
  · intro h
    rw [normal?] at h
    obtain ⟨found, hfound, rfl⟩ := Option.map_eq_some_iff.mp h
    exact ⟨_, rfl, hfields found hfound⟩
  · rintro ⟨normal, rfl, hnormal⟩
    obtain ⟨found, hfound⟩ := exists_normalFields? fun name needed shape hmem =>
      ⟨_, hnormal.told name needed shape hmem⟩
    have hsame : fieldsOf (.ofEntries found) = normal := by
      refine (hfields found hfound).ordered.ext hnormal.ordered fun name => ?_
      by_cases hmem : name ∈ parts.map (·.1)
      · obtain ⟨⟨_, needed, shape⟩, hf, rfl⟩ := List.mem_map.mp hmem
        have htwice := ((hfields found hfound).told _ needed shape hf).symm.trans
          (hnormal.told _ needed shape hf)
        exact Option.some.inj htwice
      · rw [(hfields found hfound).dropped name hmem, hnormal.dropped name hmem]
    rw [normal?, hfound, ← hsame]
    rfl

namespace NormalFields

theorem congr (h : NormalFields parts fields normal)
    (hsame : ∀ name, lookup name fields' = lookup name fields) : NormalFields parts fields' normal where
  ordered := h.ordered
  told name needed shape hmem := (hsame name).symm ▸ h.told name needed shape hmem
  dropped := h.dropped

/-- A value that is put into the object stands, in its own normal form, in that of the object. -/
theorem insert (h : NormalFields parts fields normal) (hn : (parts.map (·.1)).Nodup)
    (hmem : (name, needed, shape) ∈ parts) (hv : v ≠ .null) (hnormal : shape.normal? v = some v') :
    NormalFields parts (Json.insert name v fields) (Json.insert name v' normal) where
  ordered := h.ordered.insert
  told other needed' shape' hother := by
    rw [lookup_insert, lookup_insert]
    split
    next heq =>
      subst heq
      cases eq_of_name hn hmem hother
      have hvalue : ¬ (v = .null ∧ shape.admitsNull) := fun hnull => hv hnull.1
      rw [normalField?, if_neg hvalue, hnormal]
      rfl
    next => exact h.told other needed' shape' hother
  dropped other hother := by
    have hne : other ≠ name := by
      rintro rfl
      exact hother (List.mem_map_of_mem (f := Prod.fst) hmem)
    rw [lookup_insert_of_ne hne, h.dropped other hother]

theorem lookup_text {s : String} (h : NormalFields parts fields normal)
    (hmem : (name, false, .text) ∈ parts) :
    lookup name normal = some (.str s) ↔ lookup name fields = some (.str s) := by
  have htold := h.told name false .text hmem
  cases hfound : lookup name fields with
  | none =>
    rw [hfound] at htold
    rw [← Option.some.inj htold]
    simp
  | some v =>
    rw [hfound] at htold
    cases v with
    | str t =>
      rw [normalField?, if_neg (by simp), normal?] at htold
      rw [← Option.some.inj htold]
    | null =>
      rw [normalField?, if_pos ⟨rfl, rfl⟩] at htold
      rw [← Option.some.inj htold]
      simp
    | bool _ | num _ | arr _ | obj _ =>
      rw [normalField?, if_neg (by simp), normal?] at htold
      · cases htold
      all_goals simp

end NormalFields

theorem normal?_text (s : String) : normal? .text (.str s) = some (.str s) := by
  rw [normal?]

theorem normal?_texts (l : List String) : normal? (.list .text) (.ofTexts l) = some (.ofTexts l) := by
  have hitems : (l.map Json.str).mapM (fun v => normal? .text v) = some (l.map Json.str) := by
    induction l with
    | nil => rfl
    | cons s l ih => simp [normal?_text, ih]
  rw [ofTexts, normal?, hitems]
  rfl

end Shape

end ImageForge
