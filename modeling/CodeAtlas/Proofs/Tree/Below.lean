import CodeAtlas.Tree

/-!
# Nodes below a node

The nodes below a node are those of its preorder, the node itself among them. What stands
below a node below is below as well, and so is every node at a place of the tree, together
with the nodes above it.
-/

namespace CodeAtlas

/-- A node is below itself. -/
theorem Node.self_mem_preorder (node : Node) : node ∈ node.preorder := by
  cases node with
  | mk kind named field start stop children =>
    rw [Node.preorder]
    exact List.mem_cons_self

mutual

/-- What is below a node below a node is below it. -/
theorem Node.preorder_subset {node inner : Node} (member : inner ∈ node.preorder) :
    inner.preorder ⊆ node.preorder := by
  match node with
  | .mk kind named field start stop children =>
    rw [Node.preorder, List.mem_cons] at member
    obtain rfl | below := member
    · exact List.Subset.refl _
    · rw [Node.preorder]
      exact List.subset_cons_of_subset _ (forestPreorder_subset below)

/-- What is below a node below some neighbours is below them. -/
theorem forestPreorder_subset {nodes : List Node} {inner : Node}
    (member : inner ∈ forestPreorder nodes) : inner.preorder ⊆ forestPreorder nodes := by
  match nodes with
  | node :: nodes =>
    rw [forestPreorder, List.mem_append] at member
    rw [forestPreorder]
    obtain here | later := member
    · exact List.subset_append_of_subset_left _ (Node.preorder_subset here)
    · exact List.subset_append_of_subset_right _ (forestPreorder_subset later)

end

/-- Neighbours are below themselves. -/
theorem subset_forestPreorder (nodes : List Node) : nodes ⊆ forestPreorder nodes := by
  induction nodes with
  | nil => exact List.nil_subset _
  | cons node nodes ih =>
    rw [forestPreorder]
    exact List.cons_subset.mpr
      ⟨List.mem_append_left _ node.self_mem_preorder, List.subset_append_of_subset_right _ ih⟩

/-- What is below neighbours is below one of them. -/
theorem exists_mem_preorder {nodes : List Node} {inner : Node}
    (member : inner ∈ forestPreorder nodes) : ∃ node ∈ nodes, inner ∈ node.preorder := by
  induction nodes with
  | nil => cases member
  | cons node nodes ih =>
    rw [forestPreorder, List.mem_append] at member
    obtain here | later := member
    · exact ⟨node, List.mem_cons_self, here⟩
    · obtain ⟨found, listed, below⟩ := ih later
      exact ⟨found, List.mem_cons_of_mem node listed, below⟩

/-- What is below the children of a node is below it. -/
theorem Node.children_subset (node : Node) : forestPreorder node.children ⊆ node.preorder := by
  cases node with
  | mk kind named field start stop children =>
    rw [Node.preorder]
    exact List.subset_cons_self _ _

/-- What is below a node is the node or below one of its children. -/
theorem Node.eq_or_mem_children (node : Node) {inner : Node} (below : inner ∈ node.preorder) :
    inner = node ∨ inner ∈ forestPreorder node.children := by
  cases node with
  | mk kind named field start stop children =>
    rw [Node.preorder] at below
    exact List.mem_cons.mp below

/-- A child is below its node. -/
theorem Node.mem_preorder_of_mem_children {node child : Node} (listed : child ∈ node.children) :
    child ∈ node.preorder :=
  node.children_subset (subset_forestPreorder _ listed)

/-- The child in a field is below its node. -/
theorem Node.mem_preorder_of_child? {node child : Node} {field : String}
    (found : node.child? field = some child) : child ∈ node.preorder :=
  mem_preorder_of_mem_children (List.mem_of_find?_eq_some found)

/-- The child in a field fills it. -/
theorem Node.field_of_child? {node child : Node} {field : String}
    (found : node.child? field = some child) : child.field = field := by
  have same := List.find?_some found
  exact of_decide_eq_true same

/-! ## Places -/

mutual

/-- The nodes at the places of a tree are the nodes of the tree. -/
theorem Node.map_node_places (before : List Node) (above : List Frame) (node : Node) :
    (node.places before above).map Place.node = node.preorder := by
  match node with
  | .mk kind named field start stop children =>
    rw [Node.places, Node.preorder, List.map_cons, siblingPlaces_map_node]

/-- The nodes at the places of neighbours are their nodes. -/
theorem siblingPlaces_map_node (before : List Node) (above : List Frame) (nodes : List Node) :
    (siblingPlaces before above nodes).map Place.node = forestPreorder nodes := by
  match nodes with
  | [] => rfl
  | node :: nodes =>
    rw [siblingPlaces, forestPreorder, List.map_append, node.map_node_places,
      siblingPlaces_map_node]

end

mutual

/-- What stands above a place of a node is above the node, or below it and above the node
of the place. -/
theorem Node.above_of_mem_places {node : Node} {before : List Node} {above : List Frame}
    {place : Place} (member : place ∈ node.places before above) :
    ∀ frame ∈ place.above, frame ∈ above ∨
      frame.node ∈ node.preorder ∧ place.node ∈ frame.node.preorder := by
  match node with
  | .mk kind named field start stop children =>
    rw [Node.places, List.mem_cons] at member
    intro frame listed
    obtain rfl | below := member
    · exact .inl listed
    · obtain outside | ⟨inner, around⟩ := above_of_mem_siblingPlaces below frame listed
      · obtain rfl | further := List.mem_cons.mp outside
        · -- The frame is that of the node itself.
          refine .inr ⟨Node.self_mem_preorder _, ?_⟩
          have inner := List.mem_map_of_mem (f := Place.node) below
          rw [siblingPlaces_map_node] at inner
          rw [Node.preorder]
          exact List.mem_cons_of_mem _ inner
        · exact .inl further
      · rw [Node.preorder]
        exact .inr ⟨List.mem_cons_of_mem _ inner, around⟩

/-- What stands above a place of neighbours is above them, or below one of them and above
the node of the place. -/
theorem above_of_mem_siblingPlaces {nodes : List Node} {before : List Node}
    {above : List Frame} {place : Place} (member : place ∈ siblingPlaces before above nodes) :
    ∀ frame ∈ place.above, frame ∈ above ∨
      frame.node ∈ forestPreorder nodes ∧ place.node ∈ frame.node.preorder := by
  match nodes with
  | node :: nodes =>
    rw [siblingPlaces, List.mem_append] at member
    intro frame listed
    rw [forestPreorder, List.mem_append]
    obtain here | later := member
    · exact (Node.above_of_mem_places here frame listed).imp_right (And.imp_left .inl)
    · exact (above_of_mem_siblingPlaces later frame listed).imp_right (And.imp_left .inr)

end

/-- The node at a place of a tree is below the tree. -/
theorem Place.node_mem_preorder {tree : Node} {place : Place} (member : place ∈ tree.allPlaces) :
    place.node ∈ tree.preorder := by
  rw [← tree.map_node_places [] []]
  exact List.mem_map_of_mem member

/-- The parent of a place of a tree is below the tree, and the place is below its parent. -/
theorem Place.parent_mem_preorder {tree : Node} {place parent : Place}
    (member : place ∈ tree.allPlaces) (found : place.parent? = some parent) :
    parent.node ∈ tree.preorder ∧ place.node ∈ parent.node.preorder := by
  unfold Place.parent? at found
  split at found
  · cases found
  · rename_i frame above split
    cases found
    have listed : frame ∈ place.above := by
      rw [split]
      exact List.mem_cons_self
    obtain outside | around := Node.above_of_mem_places member frame listed
    · cases outside
    · exact around

/-! ## Places above a place -/

/-- The places of nodes above one another, nearest first. -/
def Frame.places : List Frame → List Place
  | [] => []
  | frame :: above => ⟨frame.node, frame.before, above⟩ :: Frame.places above

/-- The places above a place, nearest first. -/
def Place.ancestors (place : Place) : List Place := Frame.places place.above

/-- The node of a place above is one of the nodes above. -/
theorem Frame.exists_of_mem_places {above : List Frame} {place : Place}
    (member : place ∈ Frame.places above) : ∃ frame ∈ above, place.node = frame.node := by
  induction above with
  | nil => cases member
  | cons frame above ih =>
    obtain same | further := List.mem_cons.mp member
    · exact ⟨frame, List.mem_cons_self, by rw [same]⟩
    · obtain ⟨found, listed, same⟩ := ih further
      exact ⟨found, List.mem_cons_of_mem frame listed, same⟩

/-- What is above a place of a tree is below the tree, and the place is below it. -/
theorem Place.ancestor_mem_preorder {tree : Node} {place outer : Place}
    (member : place ∈ tree.allPlaces) (higher : outer ∈ place.ancestors) :
    outer.node ∈ tree.preorder ∧ place.node ∈ outer.node.preorder := by
  obtain ⟨frame, listed, same⟩ := Frame.exists_of_mem_places higher
  rw [same]
  exact (Node.above_of_mem_places member frame listed).resolve_left List.not_mem_nil

end CodeAtlas
