import ImageForge.Proofs.Text.Trimming

/-! Where a path leads, as far as its text tells. -/
namespace ImageForge.Text

variable {dir cs : List String} {s sep suffix : String} {c : Char}

/-- The names on the way from the root to where a component leads, from those to where it stands. The
root has nothing above it. -/
def enter (dir : List String) (component : String) : List String :=
  if component = "" ∨ component = "." then dir
  else if component = ".." then dir.dropLast
  else dir ++ [component]

/-- The names on the way to where a path leads from a directory. -/
def resolveFrom (dir : List String) (path : String) : List String :=
  (splitAt '/' path).foldl enter dir

/-- No part of a path leads out of the directory in which it begins. -/
def StaysBelow (dir : List String) (path : String) : Prop :=
  ∀ n, dir <+: ((splitAt '/' path).take n).foldl enter dir

/-- Only by `..` a path goes up. -/
theorem prefix_foldl_enter (h : ".." ∉ cs) : dir <+: cs.foldl enter dir := by
  induction cs generalizing dir with
  | nil => exact List.prefix_refl dir
  | cons component cs ih =>
    have hne : component ≠ ".." := fun he => h (he ▸ List.mem_cons_self)
    have hstep : dir <+: enter dir component := by
      unfold enter
      rw [if_neg hne]
      split
      · exact List.prefix_refl dir
      · exact List.prefix_append dir [component]
    exact hstep.trans (ih fun hc => h (List.mem_cons_of_mem component hc))

theorem staysBelow_of_components {path : String} (h : ".." ∉ splitAt '/' path)
    (dir : List String) : StaysBelow dir path :=
  fun _ => prefix_foldl_enter fun hn => h (List.mem_of_mem_take hn)

/-- A path that begins in its directory and has no component that leads up. -/
structure Confined (path : String) : Prop where
  relative : path.toList.head? ≠ some '/'
  components : ".." ∉ splitAt '/' path

theorem Confined.staysBelow {path : String} (h : Confined path) (dir : List String) :
    StaysBelow dir path :=
  staysBelow_of_components h.components dir

theorem StaysBelow.resolveFrom {path : String} (h : StaysBelow dir path) :
    dir <+: resolveFrom dir path := by
  have hall := h (splitAt '/' path).length
  rwa [List.take_length] at hall

theorem splitAt_append_sep (hsep : sep.toList = [c]) (s t : String) :
    splitAt c (s ++ sep ++ t) = splitAt c s ++ splitAt c t := by
  simp [splitAt, hsep, pieces_eq_splitOn, List.splitOn_append_cons_self]

theorem pieces_dropWhile_suffix (c : Char) (cs : List Char) :
    pieces c (cs.dropWhile (· = c)) <:+ pieces c cs := by
  induction cs with
  | nil => exact List.suffix_refl _
  | cons a cs ih =>
    by_cases ha : a = c
    · rw [List.dropWhile_cons, if_pos (decide_eq_true ha), pieces, if_pos ha]
      exact ih.trans (List.suffix_cons [] _)
    · have hsame : (a :: cs).dropWhile (· = c) = a :: cs :=
        List.dropWhile_cons_of_neg (by simpa using ha)
      exact (congrArg (pieces c) hsame).symm ▸ List.suffix_refl (pieces c (a :: cs))

theorem splitAt_dropStart_suffix (c : Char) (s : String) :
    splitAt c (dropStart (· = c) s) <:+ splitAt c s := by
  rw [splitAt, dropStart, String.toList_ofList]
  exact (pieces_dropWhile_suffix c s.toList).map String.ofList

theorem exists_slashes (path : String) :
    ∃ n, path.toList = List.replicate n '/' ++ (dropStart (· = '/') path).toList := by
  refine ⟨(path.toList.takeWhile (· = '/')).length, ?_⟩
  have hslashes : path.toList.takeWhile (· = '/') =
      List.replicate (path.toList.takeWhile (· = '/')).length '/' :=
    List.eq_replicate_iff.mpr ⟨rfl, fun c hc => by simpa using List.mem_takeWhile_imp hc⟩
  rw [← hslashes, dropStart, String.toList_ofList, List.takeWhile_append_dropWhile]

/-- A path is a directory, or lies inside it, as its components tell. -/
def Within (dir path : String) : Prop := splitAt '/' dir <+: splitAt '/' path

/-- Neither of two paths is the other one or lies inside it. -/
def Separate (p q : String) : Prop := ¬ Within p q ∧ ¬ Within q p

instance (dir path : String) : Decidable (Within dir path) :=
  inferInstanceAs (Decidable (splitAt '/' dir <+: splitAt '/' path))

instance (p q : String) : Decidable (Separate p q) := inferInstanceAs (Decidable (_ ∧ _))

theorem within_append (dir rest : String) : Within dir (dir ++ "/" ++ rest) := by
  rw [Within, splitAt_append_sep rfl]
  exact List.prefix_append _ _

theorem splitAt_append (h : c ∉ suffix.toList) (s : String) :
    ∃ last, splitAt c s = (splitAt c s).dropLast ++ [last] ∧
      splitAt c (s ++ suffix) = (splitAt c s).dropLast ++ [last ++ suffix] := by
  obtain ⟨init, last, hpieces⟩ := exists_pieces_append c s.toList
  have hs : pieces c s.toList = init ++ [last] := by simpa [pieces] using hpieces [] [] [] rfl
  have hsuffix : pieces c suffix.toList = [suffix.toList] := by
    rw [pieces_eq_splitOn]
    exact List.splitOn_eq_singleton h
  have hst := hpieces suffix.toList suffix.toList [] hsuffix
  refine ⟨String.ofList last, ?_, ?_⟩ <;> simp [splitAt, hs, hst, String.ofList_append]

end ImageForge.Text
