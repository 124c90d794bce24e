import CodeAtlas.Proofs.Tree.Below
import CodeAtlas.Proofs.Tree.WellFormed
import Mathlib.Data.List.Pairwise

/-!
# Two nodes of a tree

Of two nodes of a well-formed tree one is below the other, or one ends before the other
begins. So ranges of nodes are nested or apart. Two nodes may have one range all the same,
where a node covers all that its parent does. A node with a token of its own is never such a
parent: the token takes a part of its range that no other child has.
-/

namespace CodeAtlas

/-! ## Nested or apart -/

mutual

/-- Of two nodes of a well-formed tree one is below the other, or one ends before the other
begins. -/
theorem Node.WellFormed.below_or_apart {node first second : Node} (wellFormed : node.WellFormed)
    (left : first ∈ node.preorder) (right : second ∈ node.preorder) :
    first ∈ second.preorder ∨ second ∈ first.preorder ∨
      first.stop ≤ second.start ∨ second.stop ≤ first.start := by
  match node with
  | .mk kind named field start stop children =>
    by_cases top : first = .mk kind named field start stop children
    · rw [top]
      exact .inr (.inl right)
    by_cases alsoTop : second = .mk kind named field start stop children
    · rw [alsoTop]
      exact .inl left
    rw [Node.preorder, List.mem_cons] at left right
    exact forest_below_or_apart wellFormed.2.2 wellFormed.2.1 (left.resolve_left top)
      (right.resolve_left alsoTop)

/-- The same below well-formed neighbours in order. -/
theorem forest_below_or_apart {nodes : List Node} {first second : Node}
    (wellFormed : forestWellFormed nodes)
    (ordered : nodes.Pairwise fun first second => first.stop ≤ second.start)
    (left : first ∈ forestPreorder nodes) (right : second ∈ forestPreorder nodes) :
    first ∈ second.preorder ∨ second ∈ first.preorder ∨
      first.stop ≤ second.start ∨ second.stop ≤ first.start := by
  match nodes with
  | node :: nodes =>
    have apart {here later : Node} (member : here ∈ node.preorder)
        (further : later ∈ forestPreorder nodes) : here.stop ≤ later.start :=
      stop_le_start_of_forestWellFormed wellFormed ordered member further
    rw [forestPreorder, List.mem_append] at left right
    obtain left | left := left
    · obtain right | right := right
      · exact wellFormed.1.below_or_apart left right
      · exact .inr (.inr (.inl (apart left right)))
    · obtain right | right := right
      · exact .inr (.inr (.inr (apart right left)))
      · exact forest_below_or_apart wellFormed.2 ordered.of_cons left right

end

/-- Of two nodes of a well-formed tree one lies inside the other, or one ends before the
other begins. -/
theorem Node.WellFormed.nested_or_apart {node first second : Node} (wellFormed : node.WellFormed)
    (left : first ∈ node.preorder) (right : second ∈ node.preorder) :
    first.Inside second ∨ second.Inside first ∨
      first.stop ≤ second.start ∨ second.stop ≤ first.start := by
  obtain below | below | apart := wellFormed.below_or_apart left right
  · exact .inl ((wellFormed.of_mem_preorder right).2.of_mem_preorder below).1
  · exact .inr (.inl ((wellFormed.of_mem_preorder left).2.of_mem_preorder below).1)
  · exact .inr (.inr apart)

/-- Two neighbours in order are one, or apart. -/
theorem eq_or_apart {nodes : List Node} {first second : Node}
    (ordered : nodes.Pairwise fun first second => first.stop ≤ second.start)
    (left : first ∈ nodes) (right : second ∈ nodes) :
    first = second ∨ first.stop ≤ second.start ∨ second.stop ≤ first.start := by
  have either : nodes.Pairwise fun first second =>
      first.stop ≤ second.start ∨ second.stop ≤ first.start := ordered.imp Or.inl
  have : Std.Symm fun first second : Node =>
      first.stop ≤ second.start ∨ second.stop ≤ first.start := ⟨fun _ _ => Or.symm⟩
  exact or_iff_not_imp_left.mpr (either.forall left right)

/-! ## Tokens -/

/-- Whether a node is a token: a node without children that covers text. -/
def Node.IsToken (node : Node) : Prop := node.children = [] ∧ node.start < node.stop

/-- Being a token is decidable. -/
instance (node : Node) : Decidable node.IsToken := inferInstanceAs (Decidable (_ ∧ _))

/-- Whether some child of a node is a token. -/
def Node.HasToken (node : Node) : Prop := ∃ token ∈ node.children, token.IsToken

/-- Only a token is below a token. -/
theorem Node.IsToken.eq_of_mem_preorder {token inner : Node} (isToken : token.IsToken)
    (below : inner ∈ token.preorder) : inner = token := by
  cases token with
  | mk kind named field start stop children =>
    obtain rfl : children = [] := isToken.1
    simpa [Node.preorder, forestPreorder] using below

/-- A token holds no other token. -/
theorem Node.HasToken.not_isToken {node : Node} (hasToken : node.HasToken) : ¬node.IsToken := by
  obtain ⟨token, listed, _⟩ := hasToken
  intro isToken
  rw [isToken.1] at listed
  cases listed

/-- A node with a token covers text. -/
theorem Node.HasToken.covers {node : Node} (hasToken : node.HasToken)
    (wellFormed : node.WellFormed) : node.start < node.stop := by
  obtain ⟨token, listed, _, covers⟩ := hasToken
  have inside := (wellFormed.of_mem_preorder (mem_preorder_of_mem_children listed)).1
  exact Nat.lt_of_le_of_lt inside.1 (Nat.lt_of_lt_of_le covers inside.2)

/-- Nothing below the children of a node with a token covers as much as the node, but a
token. -/
theorem Node.HasToken.range_ne {node inner : Node} (hasToken : node.HasToken)
    (wellFormed : node.WellFormed) (below : inner ∈ forestPreorder node.children)
    (other : ¬inner.IsToken) : inner.range ≠ node.range := by
  obtain ⟨token, listed, isToken⟩ := hasToken
  obtain ⟨child, found, within⟩ := exists_mem_preorder below
  intro same
  obtain ⟨starts, stops⟩ := Prod.mk.inj same
  have part := (wellFormed.of_mem_preorder (mem_preorder_of_mem_children listed)).1
  have kept := (wellFormed.of_mem_preorder (mem_preorder_of_mem_children found)).2
  have inside := (kept.of_mem_preorder within).1
  have ordered : node.children.Pairwise fun first second => first.stop ≤ second.start := by
    cases node with
    | mk => exact wellFormed.2.1
  obtain rfl | apart := eq_or_apart ordered listed found
  · rw [isToken.eq_of_mem_preorder within] at other
    exact other isToken
  · -- The token would lie inside the child, which is apart from it.
    have covers := isToken.2
    unfold Node.Inside at part inside
    omega

/-- In a well-formed tree, nodes with tokens of their own have ranges of their own. -/
theorem Node.WellFormed.eq_of_range {tree first second : Node} (wellFormed : tree.WellFormed)
    (left : first ∈ tree.preorder) (right : second ∈ tree.preorder)
    (firstToken : first.HasToken) (secondToken : second.HasToken)
    (same : first.range = second.range) : first = second := by
  have leftKept := (wellFormed.of_mem_preorder left).2
  have rightKept := (wellFormed.of_mem_preorder right).2
  obtain below | below | apart := wellFormed.below_or_apart left right
  · obtain rfl | deeper := second.eq_or_mem_children below
    · rfl
    · exact absurd same (secondToken.range_ne rightKept deeper firstToken.not_isToken)
  · obtain rfl | deeper := first.eq_or_mem_children below
    · rfl
    · exact absurd same.symm (firstToken.range_ne leftKept deeper secondToken.not_isToken)
  · obtain ⟨starts, stops⟩ := Prod.mk.inj same
    have covers := firstToken.covers leftKept
    omega

end CodeAtlas
