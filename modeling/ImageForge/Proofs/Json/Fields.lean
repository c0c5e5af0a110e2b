import ImageForge.Json.Decode
import ImageForge.Json.MergePatch
import ImageForge.Proofs.Outcome
import Mathlib.Data.List.Nodup
import Mathlib.Data.String.Basic

/-! What is found in the fields of an object after entries were put or a patch was merged in. -/
namespace ImageForge.Json

variable {key other : String} {value : Json} {fields patch : List (String × Json)}

/-- Fields in the order of their keys; no key is there twice. -/
def Ordered (fields : List (String × Json)) : Prop := fields.Pairwise (·.1 < ·.1)

theorem Ordered.nodup (h : Ordered fields) : (fields.map (·.1)).Nodup :=
  List.pairwise_map.mpr (h.imp fun hlt => ne_of_lt hlt)

theorem lookup_cons (key k : String) (v : Json) (fields : List (String × Json)) :
    lookup key ((k, v) :: fields) = if k = key then some v else lookup key fields := by
  by_cases h : k = key <;> simp [lookup, h]

theorem eq_of_name {α : Type} {entries : List (String × α)} {name : String} {a b : α}
    (hn : (entries.map (·.1)).Nodup) (ha : (name, a) ∈ entries) (hb : (name, b) ∈ entries) : a = b := by
  have heq : (name, a) = (name, b) := List.inj_on_of_nodup_map hn ha hb rfl
  exact (Prod.mk.inj heq).2

theorem lookup_eq_none_iff : lookup key fields = none ↔ key ∉ fields.map (·.1) := by
  simp only [lookup, Option.map_eq_none_iff, List.find?_eq_none, decide_eq_true_eq, List.mem_map,
    not_exists, not_and]

theorem lookup_insert (key other : String) (value : Json) (fields : List (String × Json)) :
    lookup other (insert key value fields) =
      if other = key then some value else lookup other fields := by
  by_cases h : other = key
  · subst h
    rw [lookup_insert_self, if_pos rfl]
  · rw [lookup_insert_of_ne h, if_neg h]

theorem lookup_erase (key other : String) (fields : List (String × Json)) :
    lookup other (erase key fields) = if other = key then none else lookup other fields := by
  by_cases h : other = key
  · subst h
    rw [lookup_erase_self, if_pos rfl]
  · rw [if_neg h]
    simp only [lookup, erase, List.find?_filter]
    congr 2
    funext e
    by_cases he : e.1 = other <;> simp [he, h]

theorem mem_keys_insert : other ∈ (insert key value fields).map (·.1) ↔
    other = key ∨ other ∈ fields.map (·.1) := by
  rw [← not_iff_not, ← lookup_eq_none_iff, lookup_insert]
  by_cases h : other = key
  · simp [h]
  · rw [if_neg h, lookup_eq_none_iff]
    simp only [h, false_or]

theorem Ordered.insert (h : Ordered fields) : Ordered (insert key value fields) := by
  induction fields with
  | nil => exact List.pairwise_singleton _ _
  | cons f fields ih =>
    obtain ⟨k, v⟩ := f
    obtain ⟨hfirst, hrest⟩ := List.pairwise_cons.mp h
    unfold Json.insert
    split
    next heq => exact List.pairwise_cons.mpr ⟨fun e he => heq ▸ hfirst e he, hrest⟩
    next hne =>
      split
      next hlt =>
        refine List.pairwise_cons.mpr ⟨fun e he => ?_, h⟩
        obtain rfl | he := List.mem_cons.mp he
        · exact hlt
        · exact lt_trans hlt (hfirst e he)
      next hge =>
        refine List.pairwise_cons.mpr ⟨fun e he => ?_, ih hrest⟩
        obtain hkey | hkey := mem_keys_insert.mp (List.mem_map_of_mem (f := Prod.fst) he)
        · rw [hkey]
          exact lt_of_le_of_ne (not_lt.mp hge) (Ne.symm hne)
        · obtain ⟨e', he', hsame⟩ := List.mem_map.mp hkey
          exact hsame ▸ hfirst e' he'

theorem ordered_foldl_insert (entries : List (String × Json)) (h : Ordered fields) :
    Ordered (entries.foldl (fun fields e => insert e.1 e.2 fields) fields) := by
  induction entries generalizing fields with
  | nil => exact h
  | cons e entries ih => exact ih h.insert

theorem lookup_foldl_insert {entries : List (String × Json)} (h : (entries.map (·.1)).Nodup)
    (key : String) (fields : List (String × Json)) :
    lookup key (entries.foldl (fun fields e => insert e.1 e.2 fields) fields) =
      (lookup key entries).or (lookup key fields) := by
  induction entries generalizing fields with
  | nil => rfl
  | cons e entries ih =>
    obtain ⟨k, v⟩ := e
    obtain ⟨hnew, hrest⟩ := List.nodup_cons.mp h
    rw [List.foldl_cons, ih hrest, lookup_insert, lookup_cons]
    by_cases hk : k = key
    · subst hk
      rw [lookup_eq_none_iff.mpr hnew, if_pos rfl, if_pos rfl]
      rfl
    · rw [if_neg hk, if_neg (Ne.symm hk)]

theorem ordered_ofEntries (entries : List (String × Json)) : Ordered (fieldsOf (ofEntries entries)) :=
  ordered_foldl_insert entries List.Pairwise.nil

theorem lookup_ofEntries {entries : List (String × Json)} (h : (entries.map (·.1)).Nodup)
    (key : String) : lookup key (fieldsOf (ofEntries entries)) = lookup key entries :=
  (lookup_foldl_insert h key []).trans (Option.or_none)

theorem keys_present_sublist (entries : List (String × Option Json)) :
    ((entries.filterMap fun e => e.2.map (e.1, ·)).map (·.1)).Sublist (entries.map (·.1)) := by
  induction entries with
  | nil => exact List.Sublist.slnil
  | cons e entries ih =>
    obtain ⟨k, o⟩ := e
    cases o with
    | none => exact ih.cons k
    | some v => exact ih.cons_cons k

theorem lookup_present {entries : List (String × Option Json)} (h : (entries.map (·.1)).Nodup)
    (key : String) : lookup key (entries.filterMap fun e => e.2.map (e.1, ·)) =
      (entries.find? (·.1 = key)).bind (·.2) := by
  induction entries with
  | nil => rfl
  | cons e entries ih =>
    obtain ⟨k, o⟩ := e
    obtain ⟨hnew, hrest⟩ := List.nodup_cons.mp h
    by_cases hk : k = key
    · subst hk
      cases o with
      | none =>
        have hgone : lookup k (entries.filterMap fun e => e.2.map (e.1, ·)) = none :=
          lookup_eq_none_iff.mpr fun hmem => hnew ((keys_present_sublist entries).mem hmem)
        simpa using hgone
      | some v => simp [lookup_cons]
    · cases o with
      | none => simpa [hk] using ih hrest
      | some v => simpa [hk, lookup_cons] using ih hrest

theorem lookup_ofOptional {entries : List (String × Option Json)} (h : (entries.map (·.1)).Nodup)
    (key : String) : lookup key (fieldsOf (ofOptional entries)) =
      (entries.find? (·.1 = key)).bind (·.2) := by
  rw [ofOptional, lookup_ofEntries (h.sublist (keys_present_sublist entries)), lookup_present h]

/-- What is found after a patch: what it leaves out stays, null removes, and the rest is merged. -/
theorem lookup_mergeFields (h : (patch.map (·.1)).Nodup) (key : String)
    (fields : List (String × Json)) :
    lookup key (mergeFields fields patch) = match lookup key patch with
      | none => lookup key fields
      | some .null => none
      | some v => some (mergePatch ((lookup key fields).getD .null) v) := by
  induction patch generalizing fields with
  | nil => simp [mergeFields, lookup]
  | cons e patch ih =>
    obtain ⟨k, v⟩ := e
    obtain ⟨hnew, hrest⟩ := List.nodup_cons.mp h
    by_cases hk : k = key
    · subst hk
      have hlater : lookup k patch = none := lookup_eq_none_iff.mpr hnew
      rw [lookup_cons, if_pos rfl]
      cases v <;> simp [mergeFields, ih hrest, hlater, lookup_insert, lookup_erase]
    · rw [lookup_cons, if_neg hk]
      cases v <;> simp [mergeFields, ih hrest, lookup_insert, lookup_erase, Ne.symm hk]

theorem mergePatch_field (doc : Json) (key : String) (patch : List (String × Json)) :
    doc.mergePatch (.obj [(key, .obj patch)]) =
      .obj (insert key (.obj (mergeFields (fieldsOf ((lookup key (fieldsOf doc)).getD .null)) patch))
        (fieldsOf doc)) := by
  simp [mergePatch, mergeFields]

/-- Documents that are neither null nor objects. A patch that has one puts it as it is. -/
def Plain : Json → Prop
  | .null | .obj _ => False
  | .bool _ | .num _ | .str _ | .arr _ => True

theorem lookup_mergeFields_of_plain (h : (patch.map (·.1)).Nodup) (hv : value.Plain)
    (hfound : lookup key patch = some value) (fields : List (String × Json)) :
    lookup key (mergeFields fields patch) = some value := by
  rw [lookup_mergeFields h, hfound]
  cases value with
  | null | obj _ => cases hv
  | bool _ | num _ | str _ | arr _ => rfl

theorem lookup_mergeFields_of_absent (h : (patch.map (·.1)).Nodup) (habsent : lookup key patch = none)
    (fields : List (String × Json)) : lookup key (mergeFields fields patch) = lookup key fields := by
  rw [lookup_mergeFields h, habsent]

end ImageForge.Json

namespace ImageForge.Decode

open Json

variable {α : Type} {read : Decoder α} {write : α → Json} {name : String}
  {fields fields' patch : List (String × Json)}

theorem nullable_of_plain {v : Json} (h : v.Plain) (read : Decoder α) :
    nullable read v = (read v).map some := by
  cases v with
  | null | obj _ => cases h
  | bool _ | num _ | str _ | arr _ => rfl

theorem field?_congr (h : lookup name fields' = lookup name fields) (read : Decoder α) :
    field? fields' name read = field? fields name read := by
  rw [field?, field?, h]

/-- A field that may be absent, after a patch: it has the new value if there is one, else the old. -/
theorem optional_merged {new old : Option α} (hp : (patch.map (·.1)).Nodup)
    (hfound : lookup name patch = new.map write) (hplain : ∀ a, (write a).Plain)
    (hread : ∀ a, new = some a → read (write a) = .ok a)
    (hold : optional fields name read = .ok old) :
    optional (mergeFields fields patch) name read = .ok (new.or old) := by
  cases new with
  | none => rwa [optional, lookup_mergeFields_of_absent hp hfound]
  | some a =>
    rw [optional, lookup_mergeFields_of_plain hp (hplain a) hfound]
    dsimp only
    rw [nullable_of_plain (hplain a), hread a rfl]
    rfl

theorem field?_merged {new old : Option α} (hp : (patch.map (·.1)).Nodup)
    (hfound : lookup name patch = new.map write) (hplain : ∀ a, (write a).Plain)
    (hread : ∀ a, new = some a → read (write a) = .ok a)
    (hold : field? fields name read = .ok old) :
    field? (mergeFields fields patch) name read = .ok (new.or old) := by
  cases new with
  | none => rwa [field?, lookup_mergeFields_of_absent hp hfound]
  | some a =>
    rw [field?, lookup_mergeFields_of_plain hp (hplain a) hfound]
    dsimp only
    rw [hread a rfl]
    rfl

theorem read_of_field? {a : α} (h : field? fields name read = .ok (some a)) :
    ∃ v, lookup name fields = some v ∧ read v = .ok a := by
  unfold field? at h
  split at h
  next => cases h
  next v hv =>
    obtain ⟨a', hread, ha⟩ := ok_of_map h
    cases ha
    exact ⟨v, hv, hread⟩

theorem read_of_optional {a : α} (h : optional fields name read = .ok (some a)) :
    ∃ v, lookup name fields = some v ∧ read v = .ok a := by
  unfold optional at h
  split at h
  next => cases h
  next v hv =>
    refine ⟨v, hv, ?_⟩
    cases v with
    | null => cases h
    | bool _ | num _ | str _ | arr _ | obj _ =>
      obtain ⟨a', hread, ha⟩ := ok_of_map h
      cases ha
      exact hread

end ImageForge.Decode
