import ImageForge.Proofs.Text.Lines
import ImageForge.Worker.Build

/-! The name that an output tells stands behind its last newline, once the blanks at both ends are
dropped. -/
namespace ImageForge.Worker

open Text

variable {output name : String}

/-- An output tells a name when that is what stands behind the last newline of the trimmed output, trimmed
in its turn. -/
structure Tells (output name : String) : Prop where
  last : name.toList = strip isBlank (behindNewline (trim output).toList)
  nonempty : name ≠ ""
  trimmed : trim name = name
  oneLine : '\n' ∉ name.toList

/-- The name that an output tells; nothing where all of it is blank. -/
def toldName (output : String) : String :=
  String.ofList (strip isBlank (behindNewline (trim output).toList))

theorem lastLine?_eq (output : String) :
    lastLine? output = (lastSolid? (pieces '\n' output.toList)).map String.ofList := by
  rw [← lastSolid?_lines]
  rfl

theorem lastLine?_trim (output : String) : lastLine? (trim output) = lastLine? output := by
  rw [lastLine?_eq, lastLine?_eq, trim, String.toList_ofList, lastSolid?_strip]

theorem lastLine?_of_blank (h : ∀ c ∈ output.toList, isBlank c) : lastLine? output = none := by
  rw [lastLine?_eq, lastSolid?_pieces_of_blank (strip_eq_nil_iff.mpr h)]
  rfl

theorem lastLine?_of_solid (h : ¬ ∀ c ∈ output.toList, isBlank c) :
    lastLine? output = some (toldName output) := by
  have hne : strip isBlank output.toList ≠ [] := fun he => h (strip_eq_nil_iff.mp he)
  rw [lastLine?_eq, lastSolid?_pieces hne, toldName, trim, String.toList_ofList]
  rfl

theorem tells_toldName (h : ¬ ∀ c ∈ output.toList, isBlank c) : Tells output (toldName output) := by
  have hne : strip isBlank output.toList ≠ [] := fun he => h (strip_eq_nil_iff.mp he)
  have hlast : (toldName output).toList = strip isBlank (behindNewline (trim output).toList) :=
    String.toList_ofList
  have hrest : strip isBlank (behindNewline (trim output).toList) ≠ [] := by
    rw [trim, String.toList_ofList]
    exact strip_behindNewline_ne_nil (solid_strip hne)
  constructor
  · exact hlast
  · intro he
    rw [he] at hlast
    exact hrest hlast.symm
  · apply trim_of_solid
    rw [hlast]
    exact solid_strip hrest
  · rw [hlast]
    intro hnewline
    exact newline_not_mem_behindNewline _ ((trimmed_strip isBlank _).isInfix.subset hnewline)

end ImageForge.Worker
