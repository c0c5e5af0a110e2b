import ImageForge.Proofs.Json.Fields
import Mathlib.Logic.Relation

/-! Which parts of a document its reader looks at. Keys that it does not know may be there, and null may
stand where a value may be absent. A record may be a list of its parts. -/
namespace ImageForge

namespace Json

/-- What a reader looks at: a document as it is, the items of a list, or the fields of a record. A field
has a name, and either null stands in it for absence or not. -/
inductive Layout
  | whole
  | list (item : Layout)
  | record (fields : List (String × Bool × Layout))

variable {known : List (String × Bool × Layout)} {name : String} {v w : Json}

/-- A document and the same with one thing more, at any level: an entry for a key that is not known there,
or null where a value that may be null is absent. -/
inductive Padded : Layout → Json → Json → Prop
  | unknown {known : List (String × Bool × Layout)} {fields : List (String × Json)} {key : String}
      (value : Json) (new : key ∉ known.map (·.1)) :
      Padded (.record known) (.obj fields) (.obj (insert key value fields))
  | null {known : List (String × Bool × Layout)} {fields : List (String × Json)} {key : String}
      {layout : Layout} (there : (key, true, layout) ∈ known) (absent : lookup key fields = none) :
      Padded (.record known) (.obj fields) (.obj (insert key .null fields))
  | field {known : List (String × Bool × Layout)} {fields : List (String × Json)} {key : String}
      {nullable : Bool} {layout : Layout} {v v' : Json} (there : (key, nullable, layout) ∈ known)
      (present : lookup key fields = some v) (inner : Padded layout v v') :
      Padded (.record known) (.obj fields) (.obj (insert key v' fields))
  | place {known : List (String × Bool × Layout)} {name : String} {nullable : Bool} {layout : Layout}
      {v v' : Json} (before after : List Json)
      (there : known[before.length]? = some (name, nullable, layout)) (inner : Padded layout v v') :
      Padded (.record known) (.arr (before ++ v :: after)) (.arr (before ++ v' :: after))
  | behind {known : List (String × Bool × Layout)} {name : String} {layout : Layout}
      (items : List Json) (next : known[items.length]? = some (name, true, layout)) :
      Padded (.record known) (.arr items) (.arr (items ++ [.null]))
  | item {layout : Layout} {v v' : Json} (before after : List Json) (inner : Padded layout v v') :
      Padded (.list layout) (.arr (before ++ v :: after)) (.arr (before ++ v' :: after))

/-- What is found in one field of the two documents. -/
inductive PaddedField (nullable : Bool) (layout : Layout) : Option Json → Option Json → Prop
  | same (found : Option Json) : PaddedField nullable layout found found
  | null (may : nullable = true) : PaddedField nullable layout none (some .null)
  | inner {v v' : Json} (padded : Padded layout v v') :
      PaddedField nullable layout (some v) (some v')

/-- Objects that agree in the known fields, but for what is padded in them. -/
def PaddedFields (known : List (String × Bool × Layout)) (fields fields' : List (String × Json)) :
    Prop :=
  ∀ name nullable layout, (name, nullable, layout) ∈ known →
    PaddedField nullable layout (lookup name fields) (lookup name fields')

theorem ne_of_new {key : String} {rest : Bool × Layout} (new : key ∉ known.map (·.1))
    (hknown : (name, rest) ∈ known) : name ≠ key := by
  rintro rfl
  exact new (List.mem_map_of_mem (f := Prod.fst) hknown)

namespace PaddedFields

variable {nullable : Bool} {layout : Layout} {fields fields' : List (String × Json)}

theorem refl (known : List (String × Bool × Layout)) (fields : List (String × Json)) :
    PaddedFields known fields fields := fun _ _ _ _ => .same _

theorem cons (new : name ∉ known.map (·.1)) (first : PaddedField nullable layout (some v) (some w))
    (h : PaddedFields known fields fields') :
    PaddedFields ((name, nullable, layout) :: known) ((name, v) :: fields) ((name, w) :: fields') := by
  intro name' nullable' layout' hknown
  obtain heq | hknown := List.mem_cons.mp hknown
  · cases heq
    rw [lookup_cons, lookup_cons, if_pos rfl, if_pos rfl]
    exact first
  · have hne : name ≠ name' := (ne_of_new new hknown).symm
    rw [lookup_cons, lookup_cons, if_neg hne, if_neg hne]
    exact h name' nullable' layout' hknown

theorem single_null (new : name ∉ known.map (·.1)) :
    PaddedFields ((name, true, layout) :: known) [] [(name, .null)] := by
  intro name' nullable' layout' hknown
  obtain heq | hknown := List.mem_cons.mp hknown
  · cases heq
    rw [lookup_cons, if_pos rfl]
    exact .null rfl
  · rw [lookup_cons, if_neg (ne_of_new new hknown).symm]
    exact .same _

end PaddedFields

end Json

def Keeps {ε α : Type} (x x' : Except ε α) : Prop := ∀ a, x = .ok a → x' = .ok a

namespace Keeps

variable {ε α β : Type} {x x' : Except ε α} {f f' : α → Except ε β}

theorem refl (x : Except ε α) : Keeps x x := fun _ h => h

theorem bind (hx : Keeps x x') (hf : ∀ a, Keeps (f a) (f' a)) : Keeps (x >>= f) (x' >>= f') := by
  intro b h
  obtain ⟨a, ha, hb⟩ := ok_of_bind h
  rw [hx a ha]
  exact hf a b hb

theorem map (hx : Keeps x x') (g : α → β) : Keeps (x.map g) (x'.map g) := by
  intro b h
  obtain ⟨a, ha, hb⟩ := ok_of_map h
  rw [hx a ha, ← hb]
  rfl

end Keeps

namespace Decode

open Json

variable {α : Type} {known : List (String × Bool × Layout)} {layout : Layout} {read : Decoder α}
  {fields fields' : List (String × Json)} {name : String}

/-- A reader that looks at nothing but what a layout says. -/
def Overlooks (layout : Layout) (read : Decoder α) : Prop :=
  ∀ v v', Padded layout v v' → Keeps (read v) (read v')

@[simp] theorem overlooks_whole (read : Decoder α) : Overlooks .whole read := by
  intro v v' h
  cases h

@[simp] theorem overlooks_list (h : Overlooks layout read) : Overlooks (.list layout) (list read) := by
  intro v v' hpadded
  cases hpadded with
  | @item _ v v' before after inner =>
    show Keeps ((before ++ v :: after).mapM read) ((before ++ v' :: after).mapM read)
    induction before with
    | nil =>
      simp only [List.nil_append, List.mapM_cons]
      exact (h v v' inner).bind fun _ => .refl _
    | cons first before ih =>
      simp only [List.cons_append, List.mapM_cons]
      exact (Keeps.refl _).bind fun _ => ih.bind fun _ => .refl _

theorem keeps_field? (h : PaddedFields known fields fields') (hread : Overlooks layout read)
    (hknown : (name, false, layout) ∈ known) :
    Keeps (field? fields name read) (field? fields' name read) := by
  have hfield := h name false layout hknown
  unfold field?
  generalize lookup name fields = found, lookup name fields' = found' at hfield
  cases hfield with
  | same found => exact .refl _
  | null may => cases may
  | inner padded => exact (hread _ _ padded).map some

theorem keeps_optional (h : PaddedFields known fields fields') (hread : Overlooks layout read)
    (hknown : (name, true, layout) ∈ known) :
    Keeps (optional fields name read) (optional fields' name read) := by
  have hfield := h name true layout hknown
  unfold optional
  generalize lookup name fields = found, lookup name fields' = found' at hfield
  cases hfield with
  | same found => exact .refl _
  | null _ => exact .refl _
  | inner padded =>
    have hmap := (hread _ _ padded).map some
    cases padded <;> exact hmap

/-- A part of a record that is read as the layout of its field says. -/
structure Suits (part : Part) (field : String × Bool × Layout) : Prop where
  name : part.name = field.1
  null : field.2.1 = true → part.isNeeded = false ∧ part.check .null = .ok ()
  check : Overlooks field.2.2 part.check

@[simp] theorem suits_needed (name : String) (h : Overlooks layout read) :
    Suits (.needed name read) (name, false, layout) where
  name := rfl
  null := nofun
  check _ _ hpadded := (h _ _ hpadded).map _

@[simp] theorem suits_defaulted (name : String) (h : Overlooks layout read) :
    Suits (.defaulted name read) (name, false, layout) where
  name := rfl
  null := nofun
  check _ _ hpadded := (h _ _ hpadded).map _

@[simp] theorem suits_optional (name : String) (h : Overlooks layout read) :
    Suits (.optional name read) (name, true, layout) where
  name := rfl
  null _ := ⟨rfl, rfl⟩
  check v v' hpadded := by
    have hmap := ((h v v' hpadded).map some).map fun _ => ()
    cases hpadded <;> exact hmap

variable {parts : List Part} {part : Part} {want type : String} {start : Nat} {v v' : Json}
  {items : List Json}

theorem inOrder_nil (h : inOrder want start parts [] = .ok fields) : fields = [] := by
  induction parts generalizing start with
  | nil =>
    cases h
    rfl
  | cons part parts ih =>
    rw [inOrder] at h
    split at h
    · cases h
    · exact ih h

theorem inOrder_cons_iff : inOrder want start (part :: parts) (v :: items) = .ok fields ↔
    part.check v = .ok () ∧ ∃ rest, inOrder want (start + 1) parts items = .ok rest ∧
      fields = (part.name, v) :: rest := by
  constructor
  · intro h
    obtain ⟨⟨⟩, hcheck, h⟩ := ok_of_bind h
    obtain ⟨rest, hrest, h⟩ := ok_of_bind h
    cases h
    exact ⟨hcheck, rest, hrest, rfl⟩
  · rintro ⟨hcheck, rest, hrest, rfl⟩
    rw [inOrder, hcheck, hrest]
    rfl

theorem inOrder_place {orNull : Bool} {before after : List Json}
    (hsuits : List.Forall₂ Suits parts known) (hn : (known.map (·.1)).Nodup)
    (there : known[before.length]? = some (name, orNull, layout)) (inner : Padded layout v v')
    (h : inOrder want start parts (before ++ v :: after) = .ok fields) :
    ∃ fields', inOrder want start parts (before ++ v' :: after) = .ok fields' ∧
      PaddedFields known fields fields' := by
  induction hsuits generalizing before start fields with
  | nil => cases there
  | @cons part field parts known hsuit hsuits ih =>
    obtain ⟨hnew, hn⟩ := List.nodup_cons.mp hn
    cases before with
    | nil =>
      cases there
      obtain ⟨hcheck, rest, hrest, rfl⟩ := inOrder_cons_iff.mp h
      refine ⟨_, inOrder_cons_iff.mpr ⟨hsuit.check _ _ inner _ hcheck, rest, hrest, rfl⟩, ?_⟩
      rw [hsuit.name]
      exact .cons hnew (.inner inner) (.refl known rest)
    | cons first before =>
      obtain ⟨hcheck, rest, hrest, rfl⟩ := inOrder_cons_iff.mp h
      obtain ⟨rest', hrest', hpadded⟩ := ih hn there hrest
      refine ⟨_, inOrder_cons_iff.mpr ⟨hcheck, rest', hrest', rfl⟩, ?_⟩
      rw [hsuit.name]
      exact .cons hnew (.same _) hpadded

/-- Null is written for the part behind the last one. -/
theorem inOrder_behind (hsuits : List.Forall₂ Suits parts known) (hn : (known.map (·.1)).Nodup)
    (next : known[items.length]? = some (name, true, layout))
    (h : inOrder want start parts items = .ok fields) :
    ∃ fields', inOrder want start parts (items ++ [.null]) = .ok fields' ∧
      PaddedFields known fields fields' := by
  induction hsuits generalizing items start fields with
  | nil => cases next
  | @cons part field parts known hsuit hsuits ih =>
    obtain ⟨hnew, hn⟩ := List.nodup_cons.mp hn
    cases items with
    | nil =>
      cases next
      obtain ⟨hneeded, hcheck⟩ := hsuit.null rfl
      rw [inOrder, hneeded, if_neg Bool.false_ne_true] at h
      obtain rfl := inOrder_nil h
      refine ⟨_, inOrder_cons_iff.mpr ⟨hcheck, [], h, rfl⟩, ?_⟩
      rw [hsuit.name]
      exact .single_null hnew
    | cons first items =>
      obtain ⟨hcheck, rest, hrest, rfl⟩ := inOrder_cons_iff.mp h
      obtain ⟨rest', hrest', hpadded⟩ := ih hn next hrest
      refine ⟨_, inOrder_cons_iff.mpr ⟨hcheck, rest', hrest', rfl⟩, ?_⟩
      rw [hsuit.name]
      exact .cons hnew (.same _) hpadded

/-- The fields of a record and of the same padded are the same, but for what is padded in them. -/
theorem paddedFields_of_record (hsuits : List.Forall₂ Suits parts known)
    (hn : (known.map (·.1)).Nodup) (hpadded : Padded (.record known) v v')
    (h : record type parts v = .ok fields) :
    ∃ fields', record type parts v' = .ok fields' ∧ PaddedFields known fields fields' := by
  cases hpadded with
  | @unknown _ _ key value new =>
    cases h
    refine ⟨_, rfl, fun name nullable layout hknown => ?_⟩
    rw [lookup_insert_of_ne (ne_of_new new hknown)]
    exact .same _
  | @null _ _ key _ there absent =>
    cases h
    refine ⟨_, rfl, fun name nullable layout hknown => ?_⟩
    by_cases hname : name = key
    · subst hname
      have hfield := eq_of_name hn there hknown
      rw [absent, lookup_insert_self]
      exact .null (congrArg Prod.fst hfield).symm
    · rw [lookup_insert_of_ne hname]
      exact .same _
  | @field _ _ key _ _ v v' there present inner =>
    cases h
    refine ⟨_, rfl, fun name nullable layout hknown => ?_⟩
    by_cases hname : name = key
    · subst hname
      obtain ⟨-, rfl⟩ := Prod.mk.inj (eq_of_name hn there hknown)
      rw [present, lookup_insert_self]
      exact .inner inner
    · rw [lookup_insert_of_ne hname]
      exact .same _
  | place before after there inner => exact inOrder_place hsuits hn there inner h
  | behind items next => exact inOrder_behind hsuits hn next h

theorem overlooks_record {body : List (String × Json) → Except DecodeError α}
    (hsuits : List.Forall₂ Suits parts known) (hn : (known.map (·.1)).Nodup)
    (h : ∀ fields fields', PaddedFields known fields fields' → Keeps (body fields) (body fields')) :
    Overlooks (.record known) (fun v => record type parts v >>= body) := by
  intro v v' hpadded a ha
  obtain ⟨fields, hfields, hbody⟩ := ok_of_bind ha
  obtain ⟨fields', hfields', hpadded⟩ := paddedFields_of_record hsuits hn hpadded hfields
  show record type parts v' >>= body = .ok a
  rw [hfields']
  exact h fields fields' hpadded a hbody

/-- A value that is read back from its document, which is not null. -/
def ReadsBack (write : α → Json) (read : Decoder α) (a : α) : Prop :=
  write a ≠ .null ∧ read (write a) = .ok a

theorem field?_eq (fields : List (String × Json)) (name : String) (read : Decoder α) :
    field? fields name read = (lookup name fields).elim (.ok none) fun v => (read v).map some := by
  unfold field?
  cases lookup name fields <;> rfl

theorem optional_eq (fields : List (String × Json)) (name : String) (read : Decoder α) :
    optional fields name read = (lookup name fields).elim (.ok none) (nullable read) := by
  unfold optional
  cases lookup name fields <;> rfl

/-- A value that is written when it is there, and read back. -/
theorem nullable_written {write : α → Json} {o : Option α}
    (h : ∀ a, o = some a → ReadsBack write read a) :
    o.elim (.ok none) (nullable read ∘ write) = .ok o := by
  cases o with
  | none => rfl
  | some a =>
    obtain ⟨hnull, hread⟩ := h a rfl
    have hmap : nullable read (write a) = (read (write a)).map some := by
      unfold nullable
      split
      next he => exact absurd he hnull
      next => rfl
    rw [Option.elim_some, Function.comp_apply, hmap, hread]
    rfl

/-- A document that is read as a value has the same meaning when it is written anew, and whatever it is
padded with. -/
def RoundTrips (layout : Layout) (write : α → Json) (read : Decoder α) : Prop :=
  ∀ doc a, read doc = .ok a →
    read (write a) = .ok a ∧ (∀ again, read (write a) = .ok again → write again = write a) ∧
      ∀ padded, Relation.ReflTransGen (Padded layout) doc padded → read padded = .ok a

theorem Overlooks.roundTrips {write : α → Json} (h : Overlooks layout read)
    (hback : ∀ doc a, read doc = .ok a → ReadsBack write read a) :
    RoundTrips layout write read := by
  intro doc a hdoc
  obtain ⟨-, hread⟩ := hback doc a hdoc
  refine ⟨hread, fun again hagain => ?_, fun padded hpadded => ?_⟩
  · cases hread.symm.trans hagain
    rfl
  · induction hpadded with
    | refl => exact hdoc
    | tail _ hstep ih => exact h _ _ hstep a ih

theorem readsBack_text (s : String) : ReadsBack .str text s := ⟨Json.noConfusion, rfl⟩

@[simp] theorem text_str (s : String) : text (.str s) = .ok s := rfl

@[simp] theorem nullable_text (o : Option String) :
    o.elim (.ok none) (nullable text ∘ .str) = .ok o :=
  nullable_written fun s _ => readsBack_text s

end Decode

end ImageForge
