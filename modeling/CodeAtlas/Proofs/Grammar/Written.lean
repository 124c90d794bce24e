import CodeAtlas.Outline.Basic
import CodeAtlas.Proofs.Grammar.Names

/-!
# Blank texts

Names are written in the text. A blank text has none, and so no tree of it declares
anything, however it was parsed.
-/

namespace CodeAtlas.Outline

variable {grammar : Grammar} {source : String}

/-- No place of a blank text declares anything. -/
theorem describe_blank (written : grammar.NamesWritten) (blank : Text.isBlank source = true)
    (place : Place) : describe grammar source place = none := by
  unfold describe
  cases grammar.declares place with
  | none => rfl
  | some kind =>
    cases named : grammar.name source place.node with
    | none => rfl
    | some name =>
      have nothing : Text.trim name = "" :=
        Text.trim_eq_empty_of_subset blank (written source place.node name named)
      simp [nothing]

/-- A blank text has no symbols, whatever its tree. -/
theorem symbols_blank (written : grammar.NamesWritten) (blank : Text.isBlank source = true)
    (tree : Node) : symbols grammar source tree = [] := by
  have none : declarations grammar source tree = [] := by
    unfold declarations
    rw [List.filterMap_eq_nil_iff]
    intro place _
    rw [describe_blank written blank, Option.map_none]
  unfold symbols
  simp only [none, List.map_nil, resolveParents, List.mergeSort_nil, nest, List.filter_nil]

end CodeAtlas.Outline
