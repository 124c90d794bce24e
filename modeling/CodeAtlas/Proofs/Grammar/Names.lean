import CodeAtlas.Grammar.Builtin
import CodeAtlas.Proofs.Text.Parts
import CodeAtlas.Proofs.Tree.Below
import CodeAtlas.Proofs.Tree.WellFormed

/-!
# Names are taken from inside

Every grammar reads the name of a declaration from a node below it: the name is the text of
that node, or a part of one. So names are written in the source, and a declaration that
covers no text has a blank name.
-/

namespace CodeAtlas

/-- Whether a text stands in the text of some node below a node. -/
def Node.Spells (node : Node) (source written : String) : Prop :=
  ∃ inner ∈ node.preorder, written.toList <:+: (inner.text source).toList

/-- Whether the names of a grammar stand below their declarations. -/
def Grammar.NamesBelow (grammar : Grammar) : Prop :=
  ∀ source node written, grammar.name source node = some written → node.Spells source written

/-- Whether nodes that cover no text have blank names. -/
def Grammar.NamesFromInside (grammar : Grammar) : Prop :=
  ∀ source node written, node.WellFormed → node.stop ≤ node.start →
    grammar.name source node = some written → Text.trim written = ""

/-- Whether every name of a grammar is a part of the text it is read from. -/
def Grammar.NamesWritten (grammar : Grammar) : Prop :=
  ∀ source node written, grammar.name source node = some written →
    written.toList ⊆ source.toList

namespace Grammar

variable {grammar : Grammar} {source : String} {node : Node} {written : String}

/-- Nothing is spelled below a node without text. -/
theorem NamesBelow.namesFromInside (below : grammar.NamesBelow) : grammar.NamesFromInside := by
  intro source node written wellFormed empty named
  obtain ⟨inner, member, part⟩ := below source node written named
  rw [(wellFormed.of_mem_preorder member).1.text_eq_empty empty] at part
  rw [String.toList_eq_nil_iff.mp (List.infix_nil.mp part)]
  rfl

/-- What is spelled below a node is written in the source. -/
theorem NamesBelow.namesWritten (below : grammar.NamesBelow) : grammar.NamesWritten := by
  intro source node written named
  obtain ⟨inner, _, part⟩ := below source node written named
  exact (part.trans (inner.text_infix source)).subset

/-! ## The name of each language -/

/-- The text of a node below is spelled. -/
theorem spells_of_text {node? : Option Node} (below : ∀ inner ∈ node?, inner ∈ node.preorder)
    (named : node?.map (Node.text source) = some written) : node.Spells source written := by
  obtain ⟨inner, found, rfl⟩ := Option.map_eq_some_iff.mp named
  exact ⟨inner, below inner found, List.infix_refl _⟩

/-- The text of a child is spelled. -/
theorem spells_of_child {field : String}
    (named : (node.child? field).map (Node.text source) = some written) :
    node.Spells source written :=
  spells_of_text (fun _ => Node.mem_preorder_of_child?) named

/-- Names in the `name` field, or else of the first identifier, are spelled. -/
theorem spells_of_usual
    (named : (((node.child? "name").map (Node.text source)).orElse fun _ =>
      node.firstIdentifier? source) = some written) : node.Spells source written := by
  cases found : (node.child? "name").map (Node.text source) with
  | none =>
    rw [found] at named
    refine spells_of_text (fun inner chosen => ?_) named
    have listed := List.mem_of_find?_eq_some (Option.mem_def.mp chosen)
    exact Node.mem_preorder_of_mem_children (List.mem_filter.mp listed).1
  | some text =>
    rw [found] at named
    cases named
    exact spells_of_child found

/-- Names of Python declarations stand below them. -/
theorem python_names : python.NamesBelow := fun _ _ _ => spells_of_child

/-- Names of JavaScript and TypeScript declarations stand below them. -/
theorem ecmaScript_names (typed : Bool) : (ecmaScript typed).NamesBelow :=
  fun _ _ _ => spells_of_child

/-- Names of Go declarations stand below them. -/
theorem go_names : go.NamesBelow := fun _ _ _ => spells_of_usual

/-- Names of Java declarations stand below them. -/
theorem java_names : java.NamesBelow := fun _ _ _ => spells_of_usual

/-- Names of C# declarations stand below them. -/
theorem cSharp_names : cSharp.NamesBelow := fun _ _ _ => spells_of_usual

/-- Names of Rust declarations stand below them. The name of an `impl` block is the
beginning of the text of its type. -/
theorem rust_names : rust.NamesBelow := by
  intro source node written named
  change Rust.name source node = some written at named
  unfold Rust.name at named
  split at named
  · obtain ⟨type, found, rfl⟩ := Option.map_eq_some_iff.mp named
    refine ⟨type, Node.mem_preorder_of_child? found, ?_⟩
    rw [Text.headD_splitAt, Text.trim, String.toList_ofList, String.toList_ofList]
    exact (Chars.trim_infix _).trans (List.takeWhile_prefix _).isInfix
  · exact spells_of_child named
  · exact spells_of_child named

end Grammar

/-! ## Chains of declarators -/

mutual

/-- The declarators of a node are at or below it. -/
theorem Node.declarators_subset (node : Node) : node.declarators ⊆ node.preorder := by
  match node with
  | .mk kind named field start stop children =>
    have nested := fieldDeclarators_subset children
    have target := firstNamedDeclarators_subset children
    rw [Node.declarators, Node.preorder]
    apply List.cons_subset_cons
    split
    · split
      · exact target
      · exact List.nil_subset _
    · exact nested

/-- The chain in the `declarator` field of a list is at or below its nodes. -/
theorem fieldDeclarators_subset (nodes : List Node) :
    fieldDeclarators nodes ⊆ forestPreorder nodes := by
  match nodes with
  | [] => exact List.nil_subset _
  | node :: nodes =>
    rw [fieldDeclarators, forestPreorder]
    split
    · exact List.subset_append_of_subset_left _ node.declarators_subset
    · exact List.subset_append_of_subset_right _ (fieldDeclarators_subset nodes)

/-- The chain at the first named node of a list is at or below its nodes. -/
theorem firstNamedDeclarators_subset (nodes : List Node) :
    firstNamedDeclarators nodes ⊆ forestPreorder nodes := by
  match nodes with
  | [] => exact List.nil_subset _
  | node :: nodes =>
    rw [firstNamedDeclarators, forestPreorder]
    split
    · exact List.subset_append_of_subset_left _ node.declarators_subset
    · exact List.subset_append_of_subset_right _ (firstNamedDeclarators_subset nodes)

end

namespace Grammar

variable {source : String} {node : Node} {written : String}

/-- The declarators of a declaration are below it. -/
theorem mem_preorder_of_mem_declarators {inner : Node}
    (member : inner ∈ fieldDeclarators node.children) : inner ∈ node.preorder :=
  node.children_subset (fieldDeclarators_subset node.children member)

/-- The name at the end of a chain of declarators is spelled; a function goes by the last
part of the text there. -/
theorem spells_of_declarators
    (named : (match Cpp.functionDeclarator? node with
      | none => (Cpp.variableDeclarator? node).map (Node.text source)
      | some declarator =>
        (declarator.child? "declarator").map fun target =>
          String.ofList (Chars.afterLast [':', ':'] (target.text source).toList)) =
        some written) : node.Spells source written := by
  split at named
  · refine spells_of_text (fun inner found => ?_) named
    have head := (Option.filter_eq_some_iff.mp found).1
    exact mem_preorder_of_mem_declarators
      ((List.dropWhile_suffix _).subset (List.mem_of_mem_head? head))
  · rename_i declarator chain
    obtain ⟨target, found, rfl⟩ := Option.map_eq_some_iff.mp named
    have outer := mem_preorder_of_mem_declarators (List.mem_of_find?_eq_some chain)
    refine ⟨target, Node.preorder_subset outer (Node.mem_preorder_of_child? found), ?_⟩
    rw [String.toList_ofList]
    exact (Chars.afterLast_suffix _ _).isInfix

/-- Names of C++ declarations stand below them. -/
theorem cpp_names : cpp.NamesBelow := by
  intro source node written named
  change Cpp.name source node = some written at named
  unfold Cpp.name at named
  split at named
  · exact spells_of_declarators named
  · exact spells_of_declarators named
  · exact spells_of_declarators named
  · exact spells_of_child named
  · exact spells_of_child named

end Grammar

namespace Language

/-- In every language names stand below their declarations. -/
theorem namesBelow (language : Language) : language.grammar.NamesBelow := by
  cases language with
  | python => exact Grammar.python_names
  | javaScript => exact Grammar.ecmaScript_names false
  | typeScript => exact Grammar.ecmaScript_names true
  | tsx => exact Grammar.ecmaScript_names true
  | rust => exact Grammar.rust_names
  | go => exact Grammar.go_names
  | java => exact Grammar.java_names
  | cpp => exact Grammar.cpp_names
  | cSharp => exact Grammar.cSharp_names

/-- In every language nodes that cover no text have blank names. -/
theorem namesFromInside (language : Language) : language.grammar.NamesFromInside :=
  language.namesBelow.namesFromInside

/-- In every language names are written in the text. -/
theorem namesWritten (language : Language) : language.grammar.NamesWritten :=
  language.namesBelow.namesWritten

end Language

end CodeAtlas
