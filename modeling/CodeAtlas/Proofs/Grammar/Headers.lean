import CodeAtlas.Grammar.Builtin
import CodeAtlas.Proofs.Tree.Below

/-!
# Headers and extents

The body that ends the header of a declaration stands below it, also when the header is
carried by a function that a variable is bound to. The node whose range is reported is the
declaration itself or, in Python, the wrapper right around it.
-/

namespace CodeAtlas

namespace Grammar

/-- Whether the bodies of a grammar stand below their declarations. -/
def BodiesBelow (grammar : Grammar) : Prop :=
  ∀ node body, grammar.body node = some body → body ∈ node.preorder

/-- Whether the extents of a grammar are nodes of the tree around their declarations. -/
def ExtentsAround (grammar : Grammar) : Prop :=
  ∀ (tree : Node) (place : Place), place ∈ tree.allPlaces →
    grammar.extent place ∈ tree.preorder ∧ place.node ∈ (grammar.extent place).preorder

/-- The node that carries the header of a declaration is the declaration or below it. -/
theorem carrier_mem_preorder (node : Node) : EcmaScript.carrier node ∈ node.preorder := by
  unfold EcmaScript.carrier
  cases bound : EcmaScript.functionValue? node with
  | none => exact node.self_mem_preorder
  | some value =>
    unfold EcmaScript.functionValue? at bound
    split at bound
    · exact Node.mem_preorder_of_child? (Option.filter_eq_some_iff.mp bound).1
    · cases bound

/-- Bodies of JavaScript and TypeScript declarations stand below them. -/
theorem ecmaScript_bodies (typed : Bool) : (ecmaScript typed).BodiesBelow :=
  fun node _ found =>
    Node.preorder_subset (carrier_mem_preorder node) (Node.mem_preorder_of_child? found)

/-- A decorated definition in Python is around the definition. -/
theorem python_extents : python.ExtentsAround := by
  intro tree place member
  change Python.extent place ∈ _ ∧ _ ∈ (Python.extent place).preorder
  unfold Python.extent Place.parentOfKind?
  cases wrapper : place.parent?.filter fun parent =>
      ["decorated_definition"].contains parent.kind with
  | none => exact ⟨Place.node_mem_preorder member, place.node.self_mem_preorder⟩
  | some parent =>
    exact Place.parent_mem_preorder member (Option.filter_eq_some_iff.mp wrapper).1

end Grammar

namespace Language

/-- In every language the body of a declaration stands below it. -/
theorem bodiesBelow (language : Language) : language.grammar.BodiesBelow := by
  cases language with
  | javaScript => exact Grammar.ecmaScript_bodies false
  | typeScript => exact Grammar.ecmaScript_bodies true
  | tsx => exact Grammar.ecmaScript_bodies true
  | _ => exact fun _ _ => Node.mem_preorder_of_child?

/-- In every language but Python a declaration is reported with its own range. -/
theorem extent_eq {language : Language} (other : language ≠ .python) (place : Place) :
    language.grammar.extent place = place.node := by
  cases language <;> first | rfl | exact absurd rfl other

/-- In every language what is reported is a node of the tree around the declaration. -/
theorem extentsAround (language : Language) : language.grammar.ExtentsAround := by
  by_cases python : language = .python
  · rw [python]
    exact Grammar.python_extents
  · intro tree place member
    rw [extent_eq python]
    exact ⟨Place.node_mem_preorder member, place.node.self_mem_preorder⟩

end Language

end CodeAtlas
