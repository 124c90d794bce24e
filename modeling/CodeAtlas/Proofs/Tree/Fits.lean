import CodeAtlas.Proofs.Text.Parts
import CodeAtlas.Proofs.Tree.Below
import CodeAtlas.Proofs.Tree.WellFormed

/-!
# Trees of a text

A tree fits a text when the range of every node is one of the text. Then every node covers
a piece of the text, and in a well-formed tree these pieces are nested as the nodes are.
-/

namespace CodeAtlas

open Chars (Boundary byteSize)

/-! ## Pieces of the text -/

namespace Node

/-- Whether the ranges of a tree are ranges of a text. -/
def Fits (tree : Node) (source : String) : Prop :=
  ∀ node ∈ tree.preorder, node.start ≤ node.stop ∧
    Boundary node.start source.toList ∧ Boundary node.stop source.toList

/-- Whether a tree fits a text is decidable. -/
instance (tree : Node) (source : String) : Decidable (tree.Fits source) :=
  inferInstanceAs (Decidable (∀ node ∈ tree.preorder, _))

/-- A node covers a piece of a text. -/
structure Covers (node : Node) (source : String) (before code after : List Char) : Prop where
  parts : source.toList = before ++ code ++ after
  start : byteSize before = node.start
  stop : byteSize (before ++ code) = node.stop

variable {tree node inner : Node} {source : String}
  {before code after innerBefore innerCode innerAfter : List Char}

/-- Every node of a tree that fits a text covers a piece of it. -/
theorem Fits.exists_covers (fits : tree.Fits source) (member : node ∈ tree.preorder) :
    ∃ before code after, node.Covers source before code after := by
  obtain ⟨ordered, left, right⟩ := fits node member
  obtain ⟨before, code, after, parts, start, stop⟩ := Chars.exists_slice left right ordered
  exact ⟨before, code, after, parts, start, stop⟩

namespace Covers

/-- What precedes the piece begins the text. -/
theorem initial (covers : node.Covers source before code after) : before <+: source.toList :=
  ⟨code ++ after, by rw [covers.parts, List.append_assoc]⟩

/-- What precedes the piece begins the text together with it. -/
theorem initial_append (covers : node.Covers source before code after) :
    before ++ code <+: source.toList :=
  ⟨after, covers.parts.symm⟩

/-- The piece is the slice of the range. -/
theorem slice (covers : node.Covers source before code after) :
    Text.slice? node.start node.stop source = some (String.ofList code) := by
  unfold Text.slice?
  rw [Chars.slice?_eq_some.mpr ⟨before, after, covers.parts, covers.start, covers.stop⟩,
    Option.map_some]

/-- The piece is the text of the node. -/
theorem text (covers : node.Covers source before code after) :
    (node.text source).toList = code := by
  rw [Node.text, covers.slice, Option.getD_some, String.toList_ofList]

/-- The row of the start counts the line feeds before the piece. -/
theorem startRow (covers : node.Covers source before code after) :
    node.startRow source = before.count '\n' := by
  rw [Node.startRow, Text.row, covers.parts, ← covers.start, List.append_assoc,
    Chars.row_byteSize]

/-- The row of the end counts the line feeds up to the end of the piece. -/
theorem stopRow (covers : node.Covers source before code after) :
    node.stopRow source = (before ++ code).count '\n' := by
  rw [Node.stopRow, Text.row, covers.parts, ← covers.stop, Chars.row_byteSize]

/-- The piece of a node inside another is a part of the piece of the other. -/
theorem infix_of_inside (covers : inner.Covers source innerBefore innerCode innerAfter)
    (around : node.Covers source before code after) (inside : inner.Inside node) :
    innerCode <:+: code := by
  apply Chars.slice_infix (covers.parts.symm.trans around.parts)
  · rw [covers.start, around.start]
    exact inside.1
  · rw [covers.stop, around.stop]
    exact inside.2

/-- What precedes a node inside a piece is the beginning of the piece. -/
theorem header (covers : node.Covers source before code after)
    (around : inner.Covers source innerBefore innerCode innerAfter) (inside : inner.Inside node) :
    ∃ header, Text.slice? node.start inner.start source = some (String.ofList header) ∧
      header <+: code := by
  have order : byteSize innerBefore ≤ byteSize (innerBefore ++ innerCode) := by
    rw [Chars.byteSize_append]
    exact Nat.le_add_right _ _
  obtain ⟨header, rfl⟩ := Chars.initial_of_byteSize_le covers.initial around.initial
    (by rw [covers.start, around.start]; exact inside.1)
  have short : before ++ header <+: before ++ code :=
    Chars.initial_of_byteSize_le around.initial covers.initial_append
      (Nat.le_trans order (by rw [around.stop, covers.stop]; exact inside.2))
  refine ⟨header, ?_, (List.prefix_append_right_inj _).mp short⟩
  have parts : source.toList = before ++ header ++ (innerCode ++ innerAfter) := by
    rw [around.parts, List.append_assoc (before ++ header)]
  unfold Text.slice?
  rw [Chars.slice?_eq_some.mpr ⟨before, _, parts, covers.start, around.start⟩, Option.map_some]

end Covers

/-- The text of a node stands in the text of every node around it. -/
theorem Fits.text_infix (fits : tree.Fits source) (wellFormed : tree.WellFormed)
    (member : node ∈ tree.preorder) (below : inner ∈ node.preorder) :
    (inner.text source).toList <:+: (node.text source).toList := by
  obtain ⟨_, _, _, around⟩ := fits.exists_covers member
  obtain ⟨_, _, _, covers⟩ := fits.exists_covers (Node.preorder_subset member below)
  have inside := ((wellFormed.of_mem_preorder member).2.of_mem_preorder below).1
  rw [covers.text, around.text]
  exact covers.infix_of_inside around inside

end Node

end CodeAtlas
