import ImageForge.Controller.Naming
import ImageForge.Proofs.Naming.Subdomain

/-! Which image builds share the name of their builder job. Long names are kept apart by their marks,
but a short name may be the very text that a long one is shortened to. -/
namespace ImageForge.Controller

open Naming

variable {name n₁ n₂ : String} {as bs : List UInt8}

def TooLong (name : String) : Prop := maxLabelLength < (builderJobPrefix ++ name).utf8ByteSize

instance (name : String) : Decidable (TooLong name) := inferInstanceAs (Decidable (_ < _))

/-- The bytes of the digest that a shortened name is marked with. -/
def digestStart (name : String) : List UInt8 :=
  (Hash.Sha256.digest (builderJobPrefix ++ name).toUTF8.toList).take markBytes

def keptStart (name : String) : List Char :=
  Text.dropEnd isSeparator (name.toList.take (keptLength - builderJobPrefix.length))

/-- What a name that is too long is shortened to. -/
def shortForm (name : String) : String :=
  String.ofList (keptStart name ++ '-' :: mark (builderJobPrefix ++ name))

theorem digitChar_injective {a b : Nat} (ha : a < 16) (hb : b < 16)
    (h : Nat.digitChar a = Nat.digitChar b) : a = b := by
  have hdigits : ∀ a < 16, ∀ b < 16, Nat.digitChar a = Nat.digitChar b → a = b := by decide
  exact hdigits a ha b hb h

def isHexDigit (c : Char) : Bool := c.isDigit || ('a' ≤ c && c ≤ 'f')

theorem isHexDigit_digitChar {a : Nat} (ha : a < 16) : isHexDigit (Nat.digitChar a) := by
  have hdigits : ∀ a < 16, isHexDigit (Nat.digitChar a) := by decide
  exact hdigits a ha

theorem isAlphanumeric_of_isHexDigit {c : Char} (h : isHexDigit c) : isAlphanumeric c := by
  simp only [isHexDigit, Bool.or_eq_true, Bool.and_eq_true, decide_eq_true_eq] at h
  simp only [isAlphanumeric, Bool.or_eq_true, Bool.and_eq_true, decide_eq_true_eq]
  obtain hdigit | ⟨ha, hf⟩ := h
  · exact Or.inr hdigit
  · exact Or.inl ⟨ha, Char.le_trans hf (by decide : 'f' ≤ 'z')⟩

theorem length_hexBytes : (hexBytes as).length = 2 * as.length := by
  simp [hexBytes, List.length_flatMap, Nat.mul_comm]

theorem hexBytes_injective (h : hexBytes as = hexBytes bs) : as = bs := by
  induction as generalizing bs with
  | nil =>
    cases bs with
    | nil => rfl
    | cons => simp [hexBytes] at h
  | cons a as ih =>
    cases bs with
    | nil => simp [hexBytes] at h
    | cons b bs =>
      obtain ⟨hhigh, hlow, hrest⟩ : Nat.digitChar (a.toNat / 16) = Nat.digitChar (b.toNat / 16) ∧
          Nat.digitChar (a.toNat % 16) = Nat.digitChar (b.toNat % 16) ∧
            hexBytes as = hexBytes bs := by
        simpa [hexBytes] using h
      have ha := a.toNat_lt
      have hb := b.toNat_lt
      have hhigh := digitChar_injective (by omega) (by omega) hhigh
      have hlow := digitChar_injective (by omega) (by omega) hlow
      rw [UInt8.toNat_inj.mp (show a.toNat = b.toNat by omega), ih hrest]

theorem isHexDigit_hexBytes : ∀ c ∈ hexBytes as, isHexDigit c := by
  intro c hc
  obtain ⟨b, -, hc⟩ := List.mem_flatMap.mp hc
  have hb := b.toNat_lt
  obtain rfl | rfl : c = Nat.digitChar (b.toNat / 16) ∨ c = Nat.digitChar (b.toNat % 16) := by
    simpa using hc
  · exact isHexDigit_digitChar (by omega)
  · exact isHexDigit_digitChar (by omega)

theorem isHexDigit_mark (value : String) : ∀ c ∈ mark value, isHexDigit c := isHexDigit_hexBytes

theorem length_digest (message : List UInt8) : (Hash.Sha256.digest message).length = 32 := by
  simp [Hash.Sha256.digest, Hash.Sha256.State.words, Hash.Sha256.bigEndian]

theorem length_mark (value : String) : (mark value).length = 2 * markBytes := by
  rw [mark, length_hexBytes, List.length_take, length_digest]
  decide

theorem utf8ByteSize_of_ascii (h : ∀ c ∈ name.toList, c.val ≤ 127) :
    name.utf8ByteSize = name.toList.length := by
  obtain ⟨cs, rfl⟩ : ∃ cs, name = String.ofList cs := ⟨_, String.ofList_toList.symm⟩
  rw [String.toList_ofList] at h ⊢
  induction cs with
  | nil => rfl
  | cons c cs ih =>
    have hc : c.utf8Size = 1 := Char.utf8Size_eq_one_iff.mpr (h c List.mem_cons_self)
    have hcs := ih fun d hd => h d (List.mem_cons_of_mem c hd)
    rw [String.ofList_cons, String.utf8ByteSize_append, String.utf8ByteSize_singleton, hc, hcs,
      List.length_cons, Nat.add_comm]

theorem tooLong_iff (h : IsSubdomain name) :
    TooLong name ↔ maxLabelLength - builderJobPrefix.length < name.toList.length := by
  rw [TooLong, String.utf8ByteSize_append, utf8ByteSize_of_ascii h.ascii,
    Nat.sub_lt_iff_lt_add' (by decide)]
  rfl

theorem dropEnd_append {p : Char → Bool} {as bs : List Char} (h : Text.dropEnd p bs ≠ []) :
    Text.dropEnd p (as ++ bs) = as ++ Text.dropEnd p bs := by
  have hne : (bs.reverse.dropWhile p).isEmpty = false := by simpa [Text.dropEnd] using h
  simp [Text.dropEnd, List.dropWhile_append, hne]

theorem isSeparator_of_isAlphanumeric {c : Char} (h : isAlphanumeric c) :
    isSeparator c = false := by
  rw [Bool.eq_false_iff]
  intro hs
  simp only [isSeparator, Bool.or_eq_true, beq_iff_eq] at hs
  obtain (rfl | rfl) | rfl := hs <;> exact absurd h (by decide)

theorem exists_dropEnd_take (h : IsSubdomain name) {n : Nat} (hn : 0 < n) :
    ∃ as c bs, name.toList = as ++ c :: bs ∧ isAlphanumeric c ∧
      Text.dropEnd isSeparator (name.toList.take n) = as ++ [c] := by
  have hne : Text.dropEnd isSeparator (name.toList.take n) ≠ [] := by
    obtain ⟨c, cs, hname, hc⟩ := h.first
    obtain ⟨room, rfl⟩ := Nat.exists_eq_succ_of_ne_zero hn.ne'
    intro he
    have hmem : c ∈ name.toList.take (room + 1) := by
      rw [hname, List.take_succ_cons]
      exact List.mem_cons_self
    have hsep : isSeparator c := List.rdropWhile_eq_nil_iff.mp he c hmem
    simp [isSeparator_of_isAlphanumeric hc] at hsep
  have hlast : ¬ isSeparator ((Text.dropEnd isSeparator (name.toList.take n)).getLast hne) :=
    List.rdropWhile_last_not isSeparator _ hne
  obtain ⟨as, c, hkept, hc⟩ : ∃ as c, Text.dropEnd isSeparator (name.toList.take n) = as ++ [c] ∧
      isSeparator c = false :=
    ⟨_, _, (List.dropLast_append_getLast hne).symm, Bool.eq_false_iff.mpr hlast⟩
  obtain ⟨bs, hname⟩ : Text.dropEnd isSeparator (name.toList.take n) <+: name.toList :=
    (List.rdropWhile_prefix _ _).trans (List.take_prefix _ _)
  have hsplit : name.toList = as ++ c :: bs := by
    rw [← hname, hkept, List.append_assoc, List.singleton_append]
  refine ⟨as, c, bs, hsplit, ?_, hkept⟩
  obtain hchar | rfl | rfl := h.chars (c := c) (by simp [hsplit])
  · exact hchar
  · exact absurd hc (by decide)
  · exact absurd hc (by decide)

/-- What is kept of a domain name ends with a letter or digit. -/
theorem exists_keptStart (h : IsSubdomain name) :
    ∃ as c bs, name.toList = as ++ c :: bs ∧ isAlphanumeric c ∧ keptStart name = as ++ [c] :=
  exists_dropEnd_take h (by decide)

theorem isSubdomain_marked {as bs : List Char} {c : Char} (h : IsSubdomain name)
    (hname : name.toList = as ++ c :: bs) (hc : isAlphanumeric c) (value : String) :
    IsSubdomain (String.ofList (as ++ c :: '-' :: mark value)) := by
  have hmark : ∀ d ∈ mark value, isAlphanumeric d :=
    fun d hd => isAlphanumeric_of_isHexDigit (isHexDigit_mark value d hd)
  have hne : mark value ≠ [] := by
    rw [← List.length_pos_iff, length_mark]
    decide
  refine h.exchange hname hc ?_ ?_
  · intro d hd
    obtain rfl | hd := List.mem_cons.mp hd
    · exact Or.inr rfl
    · exact Or.inl (hmark d hd)
  · have hlast : (c :: '-' :: mark value).getLast? = some (_ : Char) :=
      (List.getLast?_append_of_ne_nil [c, '-'] hne).trans (List.getLast?_eq_some_getLast hne)
    rw [hlast]
    exact hmark _ (List.getLast_mem hne)

theorem length_keptStart_le : (keptStart name).length ≤ keptLength - builderJobPrefix.length :=
  (List.rdropWhile_prefix _ _).length_le.trans (List.length_take_le _ _)

theorem builderJobName_of_fits (h : ¬ TooLong name) :
    builderJobName name = builderJobPrefix ++ name := by
  rw [builderJobName, fitLabel, if_pos (Nat.le_of_not_lt h)]

theorem builderJobName_of_tooLong (h : IsSubdomain name) (hlong : TooLong name) :
    builderJobName name = builderJobPrefix ++ shortForm name := by
  obtain ⟨as, c, -, -, -, hkept⟩ := exists_keptStart h
  have hcut : Text.dropEnd isSeparator ((builderJobPrefix ++ name).toList.take keptLength) =
      builderJobPrefix.toList ++ keptStart name := by
    have htake : (builderJobPrefix ++ name).toList.take keptLength = builderJobPrefix.toList ++
        name.toList.take (keptLength - builderJobPrefix.length) := by
      rw [String.toList_append, List.take_append, List.take_of_length_le (by decide),
        String.length_toList]
    rw [htake, dropEnd_append (by rw [← keptStart, hkept]; simp), keptStart]
  rw [builderJobName, fitLabel, if_neg (Nat.not_le_of_lt hlong), hcut, List.append_assoc,
    String.ofList_append, String.ofList_toList, shortForm]

theorem isSubdomain_shortForm (h : IsSubdomain name) : IsSubdomain (shortForm name) := by
  obtain ⟨as, c, bs, hname, hc, hkept⟩ := exists_keptStart h
  rw [shortForm, hkept, List.append_assoc, List.singleton_append]
  exact isSubdomain_marked h hname hc _

theorem not_tooLong_shortForm (h : IsSubdomain name) : ¬ TooLong (shortForm name) := by
  have hkept : (keptStart name).length ≤ keptLength - builderJobPrefix.length :=
    length_keptStart_le
  rw [tooLong_iff (isSubdomain_shortForm h), shortForm, String.toList_ofList, List.length_append,
    List.length_cons, length_mark]
  have hroom : keptLength - builderJobPrefix.length + (2 * markBytes + 1) ≤
      maxLabelLength - builderJobPrefix.length := by decide
  omega

/-- Every name that is too long shares its job name with a domain name that fits. -/
theorem shortForm_shares_job_name (h : IsSubdomain name) (hlong : TooLong name) :
    builderJobName (shortForm name) = builderJobName name := by
  rw [builderJobName_of_fits (not_tooLong_shortForm h), builderJobName_of_tooLong h hlong]

theorem digestStart_of_shortForm (h : shortForm n₁ = shortForm n₂) :
    digestStart n₁ = digestStart n₂ := by
  have hchars := String.ofList_injective h
  have hmarks := List.append_inj_right' hchars (by simp [length_mark])
  exact hexBytes_injective (List.cons.inj hmarks).2

/-- Two image builds share the name of their builder job exactly when the name of one is what the
name of the other is shortened to. Two shortened names are kept apart by their digests. -/
theorem job_name_shared_iff (h₁ : IsSubdomain n₁) (h₂ : IsSubdomain n₂) (hne : n₁ ≠ n₂)
    (hmarks : TooLong n₁ → TooLong n₂ → digestStart n₁ ≠ digestStart n₂) :
    builderJobName n₁ = builderJobName n₂ ↔
      (TooLong n₂ ∧ n₁ = shortForm n₂) ∨ (TooLong n₁ ∧ n₂ = shortForm n₁) := by
  constructor
  · intro hname
    by_cases hlong₁ : TooLong n₁ <;> by_cases hlong₂ : TooLong n₂
    · rw [builderJobName_of_tooLong h₁ hlong₁, builderJobName_of_tooLong h₂ hlong₂,
        String.append_right_inj] at hname
      exact absurd (digestStart_of_shortForm hname) (hmarks hlong₁ hlong₂)
    · rw [builderJobName_of_tooLong h₁ hlong₁, builderJobName_of_fits hlong₂,
        String.append_right_inj] at hname
      exact Or.inr ⟨hlong₁, hname.symm⟩
    · rw [builderJobName_of_fits hlong₁, builderJobName_of_tooLong h₂ hlong₂,
        String.append_right_inj] at hname
      exact Or.inl ⟨hlong₂, hname⟩
    · rw [builderJobName_of_fits hlong₁, builderJobName_of_fits hlong₂,
        String.append_right_inj] at hname
      exact absurd hname hne
  · rintro (⟨hlong, rfl⟩ | ⟨hlong, rfl⟩)
    · exact shortForm_shares_job_name h₂ hlong
    · exact (shortForm_shares_job_name h₁ hlong).symm

/-- Two names that are shortened at the same place have jobs of their own. -/
theorem driver_images_apart :
    let a := "ubuntu-24.04-kubernetes-1.30-cilium-gpu-nvidia-driver-550"
    let b := "ubuntu-24.04-kubernetes-1.30-cilium-gpu-nvidia-driver-560"
    IsSubdomain a ∧ IsSubdomain b ∧ TooLong a ∧ TooLong b ∧ digestStart a ≠ digestStart b ∧
      builderJobName a ≠ builderJobName b := by
  intro a b
  have ha : IsSubdomain a := by decide +kernel
  have hb : IsSubdomain b := by decide +kernel
  have hmarks : digestStart a ≠ digestStart b := by decide +kernel
  have hshared := job_name_shared_iff ha hb (by decide) fun _ _ => hmarks
  have hforms : ¬ ((TooLong b ∧ a = shortForm b) ∨ (TooLong a ∧ b = shortForm a)) := by
    decide +kernel
  exact ⟨ha, hb, by decide +kernel, by decide +kernel, hmarks, mt hshared.mp hforms⟩

/-- The image build that is named like the short form of the other one gets the same job. -/
theorem driver_image_job_shared :
    IsSubdomain "ubuntu-24.04-kubernetes-1.30-cilium-gpu-nvid-920199bbff" ∧
      IsSubdomain "ubuntu-24.04-kubernetes-1.30-cilium-gpu-nvidia-driver-550" ∧
      ¬ TooLong "ubuntu-24.04-kubernetes-1.30-cilium-gpu-nvid-920199bbff" ∧
      builderJobName "ubuntu-24.04-kubernetes-1.30-cilium-gpu-nvid-920199bbff" =
        builderJobName "ubuntu-24.04-kubernetes-1.30-cilium-gpu-nvidia-driver-550" := by
  decide +kernel

end ImageForge.Controller
