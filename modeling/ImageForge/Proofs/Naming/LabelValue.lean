import ImageForge.Proofs.Naming.Sharing
import ImageForge.Proofs.Reconcile.Construction

/-! The names that a builder job gets are well-formed: its own is a domain name, and the one on its
label is a label value. -/
namespace ImageForge

def Job.label? (job : Job) (key : String) : Option String :=
  ((job.metadata.labels.getD []).find? (·.1 = key)).map (·.2)

namespace Naming

open Text

variable {name front : String}

/-- A label value that says something: a few characters, with a letter or digit at both ends. -/
structure IsLabelValue (value : String) : Prop where
  fits : value.utf8ByteSize ≤ 63
  chars : ∀ c ∈ value.toList, c.isAlphanum ∨ c = '-' ∨ c = '_' ∨ c = '.'
  first : value.toList.head?.any Char.isAlphanum
  last : value.toList.getLast?.any Char.isAlphanum

theorem isAlphanum_of_isAlphanumeric {c : Char} (h : isAlphanumeric c) : c.isAlphanum := by
  have halphanum : c.isAlphanum = ((c.isUpper || c.isLower) || c.isDigit) := rfl
  rw [halphanum, Bool.or_eq_true, Bool.or_eq_true]
  simp only [isAlphanumeric, Bool.or_eq_true] at h
  obtain hletter | hdigit := h
  · have hlower : c.isLower = true := hletter
    exact Or.inl (Or.inr hlower)
  · exact Or.inr hdigit

theorem IsSubdomain.last (h : IsSubdomain name) :
    ∃ as c, name.toList = as ++ [c] ∧ isAlphanumeric c := by
  have hne : name.toList ≠ [] := by
    obtain ⟨c, rest, hname, -⟩ := h.first
    simp [hname]
  obtain ⟨as, c, hname⟩ : ∃ as c, name.toList = as ++ [c] :=
    ⟨_, _, (List.dropLast_append_getLast hne).symm⟩
  refine ⟨as, c, hname, ?_⟩
  obtain ⟨init, last, hpieces⟩ := exists_pieces_append '.' as
  rw [IsSubdomain, hname] at h
  by_cases hdot : c = '.'
  · -- Behind a last dot there would be an empty label.
    have hempty : IsLabel [] := h [] (by simp [hpieces [c] [] [[]] (by simp [pieces, hdot])])
    exact absurd rfl hempty.ne_nil
  · have hlabel : IsLabel (last ++ [c]) :=
      h _ (by simp [hpieces [c] [c] [] (by simp [pieces, hdot])])
    simpa using hlabel.last

/-- A domain name stays one when the start of a label is put in front of it. -/
theorem IsSubdomain.prepend (h : IsSubdomain name)
    (hchars : ∀ c ∈ front.toList, isAlphanumeric c ∨ c = '-')
    (hfirst : front.toList.head?.any isAlphanumeric) : IsSubdomain (front ++ name) := by
  have hdot : '.' ∉ front.toList := by
    intro hmem
    obtain hc | hc := hchars '.' hmem <;> exact absurd hc (by decide)
  obtain ⟨piece, rest, hname⟩ := List.exists_cons_of_ne_nil (pieces_ne_nil '.' name.toList)
  rw [IsSubdomain, hname, List.forall_mem_cons] at h
  rw [IsSubdomain, String.toList_append, pieces_append_of_notMem hdot hname, List.forall_mem_cons]
  refine ⟨?_, h.2⟩
  exact {
    chars := by
      intro c hc
      obtain hc | hc := List.mem_append.mp hc
      · exact hchars c hc
      · exact h.1.chars c hc
    first := by
      cases hfront : front.toList with
      | nil => simp [hfront] at hfirst
      | cons c cs => simpa [hfront] using hfirst
    last := by
      rw [List.getLast?_append_of_ne_nil _ h.1.ne_nil]
      exact h.1.last }

theorem IsSubdomain.isLabelValue (h : IsSubdomain name) (fits : name.utf8ByteSize ≤ 63) :
    IsLabelValue name where
  fits := fits
  chars c hc := by
    obtain hc | rfl | rfl := h.chars hc
    · exact Or.inl (isAlphanum_of_isAlphanumeric hc)
    · exact Or.inr (Or.inl rfl)
    · exact Or.inr (Or.inr (Or.inr rfl))
  first := by
    obtain ⟨c, rest, hname, hc⟩ := h.first
    simpa [hname] using isAlphanum_of_isAlphanumeric hc
  last := by
    obtain ⟨as, c, hname, hc⟩ := h.last
    simpa [hname] using isAlphanum_of_isAlphanumeric hc

end Naming

namespace Controller

open Naming

variable {name value : String} {b : ImageBuild} {settings : BuilderSettings} {job : Job}

theorem isSubdomain_builderJobPrefix (h : IsSubdomain name) :
    IsSubdomain (builderJobPrefix ++ name) :=
  h.prepend (by simp [builderJobPrefix, isAlphanumeric]) (by decide)

/-- What a domain name is fitted to is a domain name that fits. -/
theorem isSubdomain_fitLabel (h : IsSubdomain value) :
    IsSubdomain (fitLabel value) ∧ (fitLabel value).utf8ByteSize ≤ maxLabelLength := by
  by_cases hfits : value.utf8ByteSize ≤ maxLabelLength
  · rw [fitLabel, if_pos hfits]
    exact ⟨h, hfits⟩
  · obtain ⟨as, c, bs, hvalue, hc, hkept⟩ := exists_dropEnd_take (n := keptLength) h (by decide)
    have hlength : (as ++ [c]).length ≤ keptLength := by
      rw [← hkept]
      exact (List.rdropWhile_prefix _ _).length_le.trans (List.length_take_le _ _)
    have hsubdomain := isSubdomain_marked h hvalue hc value
    have hsize : (String.ofList (as ++ c :: '-' :: mark value)).utf8ByteSize ≤ maxLabelLength := by
      have hroom : keptLength + (1 + 2 * markBytes) = maxLabelLength := by decide
      rw [utf8ByteSize_of_ascii hsubdomain.ascii, String.toList_ofList, ← hroom]
      simp only [List.length_append, List.length_cons, List.length_nil, length_mark] at hlength ⊢
      omega
    rw [fitLabel, if_neg hfits, hkept, List.append_assoc, List.singleton_append]
    exact ⟨hsubdomain, hsize⟩

theorem label_of_made (h : builderJob b settings = .ok job) (hname : b.metadata.name = some name) :
    job.label? imageBuildLabel = some (fitLabel name) := by
  obtain ⟨name', ns, provisioner, output, hname', -, -, -, -, rfl⟩ := builderJob_ok h
  cases hname.symm.trans hname'
  have hne : imageBuildLabel ≠ managedByLabel := by decide
  simp only [Job.label?, builderLabels, TextMap.ofEntries, List.foldl_cons, List.foldl_nil,
    TextMap.insert, if_neg hne, Option.getD_some]
  split <;> simp [hne.symm]

/-- The job of an image build that is named by a domain name has a domain name, no longer than a label
allows: the prefixed name where that fits, and else a part of it behind which ten digits stand. The label
of the job carries the name of the image build where that fits, and a label value in any case. -/
theorem job_names_wellFormed (h : IsSubdomain name) :
    (IsSubdomain (builderJobName name) ∧ (builderJobName name).utf8ByteSize ≤ 63 ∧
        IsLabelValue (builderJobName name)) ∧
      (("imgbldr-" ++ name).utf8ByteSize ≤ 63 → builderJobName name = "imgbldr-" ++ name) ∧
      (63 < ("imgbldr-" ++ name).utf8ByteSize → ∃ start digits,
        (builderJobName name).toList = start ++ '-' :: digits ∧
          start <+: ("imgbldr-" ++ name).toList ∧ "imgbldr-".length < start.length ∧
          start.getLast?.any isAlphanumeric ∧ digits.length = 10 ∧ ∀ d ∈ digits, isHexDigit d) ∧
      ∀ b settings job, b.metadata.name = some name → builderJob b settings = .ok job →
        ∃ value, job.label? imageBuildLabel = some value ∧ IsLabelValue value ∧
          (name.utf8ByteSize ≤ 63 → value = name) := by
  have hjob : IsSubdomain (builderJobName name) ∧ (builderJobName name).utf8ByteSize ≤ 63 :=
    isSubdomain_fitLabel (isSubdomain_builderJobPrefix h)
  have hlabel := isSubdomain_fitLabel h
  refine ⟨⟨hjob.1, hjob.2, hjob.1.isLabelValue hjob.2⟩, ?_, ?_, ?_⟩
  · intro hfits
    exact builderJobName_of_fits (Nat.not_lt_of_le hfits)
  · intro hlong
    obtain ⟨as, c, bs, hname, hc, hkept⟩ := exists_keptStart h
    refine ⟨builderJobPrefix.toList ++ (as ++ [c]), mark (builderJobPrefix ++ name), ?_, ?_, ?_, ?_,
      length_mark _, isHexDigit_mark _⟩
    · rw [builderJobName_of_tooLong h hlong, String.toList_append, shortForm, String.toList_ofList,
        hkept, ← List.append_assoc]
    · refine ⟨bs, ?_⟩
      rw [String.toList_append, hname]
      simp [builderJobPrefix]
    · have hlength : "imgbldr-".length = builderJobPrefix.toList.length := by decide
      rw [hlength, List.length_append]
      simp
    · simpa using hc
  · intro b settings job hname hmade
    refine ⟨fitLabel name, label_of_made hmade hname, hlabel.1.isLabelValue hlabel.2, ?_⟩
    intro hfits
    exact if_pos hfits

/-- The job of an image build whose name is one byte too long. -/
theorem driver_job_name_wellFormed :
    let name := "ubuntu-2404-kubernetes-1-30-cilium-gpu-nvidia-driver-550"
    IsSubdomain name ∧ ("imgbldr-" ++ name).utf8ByteSize = 64 ∧
      IsLabelValue (builderJobName name) ∧ ∃ start digits,
        (builderJobName name).toList = start ++ '-' :: digits ∧
          start <+: ("imgbldr-" ++ name).toList ∧ "imgbldr-".length < start.length ∧
          start.getLast?.any isAlphanumeric ∧ digits.length = 10 ∧ ∀ d ∈ digits, isHexDigit d := by
  intro name
  have hname : IsSubdomain name := by decide +kernel
  obtain ⟨⟨-, -, hvalue⟩, -, hcut, -⟩ := job_names_wellFormed hname
  exact ⟨hname, by decide, hvalue, hcut (by decide)⟩

end Controller

end ImageForge
