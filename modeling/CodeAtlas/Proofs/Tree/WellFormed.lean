import CodeAtlas.Tree

/-!
# Well-formed trees

In a well-formed tree every node lies inside its parent, and neighbours stand in order and
do not overlap. What holds of neighbours then holds of everything below them, so the
ranges of any two nodes of the tree say how the nodes stand to each other.
-/

namespace CodeAtlas

namespace Node

/-- Whether the range of a node lies inside that of another. -/
def Inside (inner outer : Node) : Prop := outer.start ≤ inner.start ∧ inner.stop ≤ outer.stop

/-- Lying inside is decidable. -/
instance (inner outer : Node) : Decidable (inner.Inside outer) :=
  inferInstanceAs (Decidable (_ ∧ _))

/-- Every node lies inside itself. -/
theorem Inside.refl (node : Node) : node.Inside node := ⟨Nat.le_refl _, Nat.le_refl _⟩

/-- What lies inside a node lies inside everything around it. -/
theorem Inside.trans {inner middle outer : Node} (first : inner.Inside middle)
    (second : middle.Inside outer) : inner.Inside outer :=
  ⟨Nat.le_trans second.1 first.1, Nat.le_trans first.2 second.2⟩

end Node

mutual

/-- Whether every node of a tree lies inside its parent, and neighbours stand in order and
do not overlap. -/
def Node.WellFormed : Node → Prop
  | node@(.mk _ _ _ _ _ children) =>
    (∀ child ∈ children, child.Inside node) ∧
      children.Pairwise (fun first second => first.stop ≤ second.start) ∧
      forestWellFormed children

/-- Whether all trees of a list are well formed. -/
def forestWellFormed : List Node → Prop
  | [] => True
  | node :: nodes => node.WellFormed ∧ forestWellFormed nodes

end

mutual

/-- Decides whether a tree is well formed. -/
def Node.decideWellFormed : (node : Node) → Decidable node.WellFormed
  | .mk _ _ _ _ _ children =>
    have := decideForestWellFormed children
    inferInstanceAs (Decidable (_ ∧ _ ∧ _))

/-- Decides whether all trees of a list are well formed. -/
def decideForestWellFormed : (nodes : List Node) → Decidable (forestWellFormed nodes)
  | [] => isTrue trivial
  | node :: nodes =>
    have := node.decideWellFormed
    have := decideForestWellFormed nodes
    inferInstanceAs (Decidable (_ ∧ _))

end

/-- Whether a tree is well formed is decidable. -/
instance (node : Node) : Decidable node.WellFormed := node.decideWellFormed

/-! ## Everything below a node -/

mutual

/-- Everything below a well-formed node lies inside it and is well formed. -/
theorem Node.WellFormed.of_mem_preorder {node inner : Node} (wellFormed : node.WellFormed)
    (member : inner ∈ node.preorder) : inner.Inside node ∧ inner.WellFormed := by
  match node with
  | .mk kind named field start stop children =>
    rw [Node.preorder, List.mem_cons] at member
    obtain same | below := member
    · rw [same]
      exact ⟨Node.Inside.refl _, wellFormed⟩
    · obtain ⟨child, listed, inside, kept⟩ :=
        exists_of_mem_forestPreorder wellFormed.2.2 below
      exact ⟨inside.trans (wellFormed.1 child listed), kept⟩

/-- Everything below well-formed neighbours lies inside one of them and is well formed. -/
theorem exists_of_mem_forestPreorder {nodes : List Node} {inner : Node}
    (wellFormed : forestWellFormed nodes) (member : inner ∈ forestPreorder nodes) :
    ∃ node ∈ nodes, inner.Inside node ∧ inner.WellFormed := by
  match nodes with
  | node :: nodes =>
    rw [forestPreorder, List.mem_append] at member
    obtain here | later := member
    · exact ⟨node, List.mem_cons_self, wellFormed.1.of_mem_preorder here⟩
    · obtain ⟨found, listed, inside⟩ := exists_of_mem_forestPreorder wellFormed.2 later
      exact ⟨found, List.mem_cons_of_mem node listed, inside⟩

end

/-- What is below the first of well-formed neighbours in order ends before what is below a
later one begins. -/
theorem stop_le_start_of_forestWellFormed {node here later : Node} {nodes : List Node}
    (wellFormed : forestWellFormed (node :: nodes))
    (ordered : (node :: nodes).Pairwise fun first second => first.stop ≤ second.start)
    (member : here ∈ node.preorder) (further : later ∈ forestPreorder nodes) :
    here.stop ≤ later.start := by
  obtain ⟨next, listed, inside, _⟩ := exists_of_mem_forestPreorder wellFormed.2 further
  have ends := (wellFormed.1.of_mem_preorder member).1.2
  have follows := (List.pairwise_cons.mp ordered).1 next listed
  exact Nat.le_trans ends (Nat.le_trans follows inside.1)

/-! ## Texts of nodes -/

/-- An empty range covers no text. -/
theorem Node.text_eq_empty {node : Node} (empty : node.stop ≤ node.start) (source : String) :
    node.text source = "" := by
  unfold Node.text Text.slice? Chars.slice?
  by_cases same : node.start ≤ node.stop
  · rw [if_pos same, Nat.sub_eq_zero_of_le empty]
    cases Chars.dropBytes? node.start source.toList with
    | none => rfl
    | some rest => simp [Chars.takeBytes?]
  · rw [if_neg same]
    rfl

/-- What lies inside an empty range covers no text. -/
theorem Node.Inside.text_eq_empty {inner outer : Node} (inside : inner.Inside outer)
    (empty : outer.stop ≤ outer.start) (source : String) : inner.text source = "" :=
  Node.text_eq_empty (Nat.le_trans inside.2 (Nat.le_trans empty inside.1)) source

end CodeAtlas
