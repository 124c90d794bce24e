import CodeAtlas.Proofs.Tree.Below
import CodeAtlas.Proofs.Tree.WellFormed

/-!
# Preorder

In preorder a node stands before the nodes inside it, and neighbours stand one after the
other. So the nodes of a well-formed tree are listed by their start, the siblings before a place
end before it begins, and everything above a place is listed before it.
-/

namespace CodeAtlas

/-! ## Starts -/

mutual

/-- The nodes of a well-formed tree are listed by their start. -/
theorem Node.WellFormed.preorder_sorted {node : Node} (wellFormed : node.WellFormed)
    (proper : ∀ inner ∈ node.preorder, inner.start ≤ inner.stop) :
    node.preorder.Pairwise fun first second => first.start ≤ second.start := by
  match node with
  | .mk kind named field start stop children =>
    have inside (inner : Node) (member : inner ∈ Node.preorder _) :=
      (wellFormed.of_mem_preorder member).1
    rw [Node.preorder] at inside proper ⊢
    obtain ⟨_, below⟩ := List.forall_mem_cons.mp proper
    refine List.pairwise_cons.mpr
      ⟨fun inner member => ?_, forestPreorder_sorted wellFormed.2.2 wellFormed.2.1 below⟩
    exact (inside inner (List.mem_cons_of_mem _ member)).1

/-- The nodes of well-formed neighbours in order are listed by their start. -/
theorem forestPreorder_sorted {nodes : List Node} (wellFormed : forestWellFormed nodes)
    (ordered : nodes.Pairwise fun first second => first.stop ≤ second.start)
    (proper : ∀ inner ∈ forestPreorder nodes, inner.start ≤ inner.stop) :
    (forestPreorder nodes).Pairwise fun first second => first.start ≤ second.start := by
  match nodes with
  | [] => exact List.Pairwise.nil
  | node :: nodes =>
    rw [forestPreorder] at proper ⊢
    obtain ⟨here, there⟩ := List.forall_mem_append.mp proper
    refine List.pairwise_append.mpr ⟨wellFormed.1.preorder_sorted here,
      forestPreorder_sorted wellFormed.2 ordered.of_cons there, ?_⟩
    intro first member second further
    exact Nat.le_trans (here first member)
      (stop_le_start_of_forestWellFormed wellFormed ordered member further)

end

/-! ## Siblings -/

mutual

/-- When a node stands in order behind the siblings before it, so does every place below it. -/
theorem Node.WellFormed.before_sorted {node : Node} (wellFormed : node.WellFormed)
    {before : List Node} {above : List Frame} {place : Place}
    (sorted : (node :: before).Pairwise fun later earlier => earlier.stop ≤ later.start)
    (member : place ∈ node.places before above) :
    (place.node :: place.before).Pairwise fun later earlier => earlier.stop ≤ later.start := by
  match node with
  | .mk kind named field start stop children =>
    rw [Node.places, List.mem_cons] at member
    obtain rfl | below := member
    · exact sorted
    · exact siblingPlaces_before_sorted wellFormed.2.2 wellFormed.2.1 List.Pairwise.nil nofun below

/-- When neighbours stand in order behind the siblings before them, so do the places below
them. -/
theorem siblingPlaces_before_sorted {nodes before : List Node} {above : List Frame} {place : Place}
    (wellFormed : forestWellFormed nodes)
    (ordered : nodes.Pairwise fun first second => first.stop ≤ second.start)
    (sorted : before.Pairwise fun later earlier => earlier.stop ≤ later.start)
    (behind : ∀ node ∈ nodes, ∀ earlier ∈ before, earlier.stop ≤ node.start)
    (member : place ∈ siblingPlaces before above nodes) :
    (place.node :: place.before).Pairwise fun later earlier => earlier.stop ≤ later.start := by
  match nodes with
  | [] => cases member
  | node :: nodes =>
    obtain ⟨here, there⟩ := List.forall_mem_cons.mp behind
    have grown := List.pairwise_cons.mpr ⟨here, sorted⟩
    rw [siblingPlaces, List.mem_append] at member
    obtain inside | later := member
    · exact wellFormed.1.before_sorted grown inside
    · refine siblingPlaces_before_sorted wellFormed.2 ordered.of_cons grown ?_ later
      intro next listed
      exact List.forall_mem_cons.mpr
        ⟨(List.pairwise_cons.mp ordered).1 next listed, there next listed⟩

end

/-- In a well-formed tree, each of the siblings before a place ends before those after it and the
place begin. -/
theorem Place.before_sorted {tree : Node} {place : Place} (wellFormed : tree.WellFormed)
    (member : place ∈ tree.allPlaces) :
    (place.node :: place.before).Pairwise fun later earlier => earlier.stop ≤ later.start :=
  wellFormed.before_sorted (List.pairwise_singleton _ tree) member

/-! ## Ancestors -/

mutual

/-- What is above a place is above the tree, or listed before the place. -/
theorem Node.ancestors_precede {node : Node} {before : List Node} {above : List Frame}
    {earlier later : List Place} {place outer : Place}
    (parts : node.places before above = earlier ++ place :: later)
    (higher : outer ∈ place.ancestors) : outer ∈ Frame.places above ∨ outer ∈ earlier := by
  match node with
  | .mk kind named field start stop children =>
    rw [Node.places] at parts
    cases earlier with
    | nil =>
      obtain ⟨rfl, _⟩ := List.cons.inj parts
      exact .inl higher
    | cons first earlier =>
      obtain ⟨rfl, below⟩ := List.cons.inj parts
      obtain outside | inside := siblingPlaces_ancestors_precede below higher
      · -- What is above the children is the node, or above it.
        obtain rfl | further := List.mem_cons.mp outside
        · exact .inr List.mem_cons_self
        · exact .inl further
      · exact .inr (List.mem_cons_of_mem _ inside)

/-- What is above a place is above the neighbours, or listed before the place. -/
theorem siblingPlaces_ancestors_precede {nodes before : List Node} {above : List Frame}
    {earlier later : List Place} {place outer : Place}
    (parts : siblingPlaces before above nodes = earlier ++ place :: later)
    (higher : outer ∈ place.ancestors) : outer ∈ Frame.places above ∨ outer ∈ earlier := by
  match nodes with
  | [] => exact absurd parts.symm (List.append_ne_nil_of_right_ne_nil _ (List.cons_ne_nil _ _))
  | node :: nodes =>
    rw [siblingPlaces] at parts
    obtain ⟨skipped, rfl, further⟩ | ⟨rest, here, further⟩ := List.append_eq_append_iff.mp parts
    · -- The place is below a later neighbour.
      obtain outside | inside := siblingPlaces_ancestors_precede further higher
      · exact .inl outside
      · exact .inr (List.mem_append_right _ inside)
    · cases rest with
      | nil =>
        have first : siblingPlaces (node :: before) above nodes = [] ++ place :: later :=
          further.symm
        obtain outside | inside := siblingPlaces_ancestors_precede first higher
        · exact .inl outside
        · cases inside
      | cons first rest =>
        obtain ⟨rfl, _⟩ := List.cons.inj further
        exact Node.ancestors_precede here higher

end

/-- What is above a place of a tree is listed before it. -/
theorem Place.ancestors_precede {tree : Node} {earlier later : List Place}
    {place outer : Place} (parts : tree.allPlaces = earlier ++ place :: later)
    (higher : outer ∈ place.ancestors) : outer ∈ earlier :=
  (Node.ancestors_precede parts higher).resolve_left List.not_mem_nil

/-- What is above a place of a tree is a place of the tree. -/
theorem Place.ancestor_mem {tree : Node} {place outer : Place} (member : place ∈ tree.allPlaces)
    (higher : outer ∈ place.ancestors) : outer ∈ tree.allPlaces := by
  obtain ⟨earlier, later, parts⟩ := List.append_of_mem member
  rw [parts]
  exact List.mem_append_left _ (Place.ancestors_precede parts higher)

end CodeAtlas
