import CodeAtlas.Proofs.Outline.Ancestors
import CodeAtlas.Proofs.Outline.Members

/-!
# Listed variables

A declaration is listed once, under one name. In Go a specification goes by the first of its
names, and in C++ a declaration by the identifier at the end of its first chain of
declarators. A listing has exactly these variables: the further names of a declaration that
has several are not in it.
-/

namespace CodeAtlas

/-! ## Chains of declarators -/

/-- The declarator nested right in a declarator; a reference declarator holds its target as
a plain child. -/
def Node.innerDeclarator? (node : Node) : Option Node :=
  (node.child? "declarator").or
    (if node.kind = "reference_declarator" then node.firstNamed? else none)

/-- The chain in the `declarator` field is that of the first child there. -/
theorem fieldDeclarators_eq (nodes : List Node) :
    fieldDeclarators nodes =
      ((nodes.find? fun child => child.field = "declarator").map Node.declarators).getD [] := by
  induction nodes with
  | nil => rfl
  | cons node nodes ih =>
    rw [fieldDeclarators, List.find?_cons]
    by_cases here : node.field = "declarator" <;> simp [here, ih]

/-- The chain among plain children is that of the first named one. -/
theorem firstNamedDeclarators_eq (nodes : List Node) :
    firstNamedDeclarators nodes =
      ((nodes.filter Node.named).head?.map Node.declarators).getD [] := by
  induction nodes with
  | nil => rfl
  | cons node nodes ih =>
    rw [firstNamedDeclarators, List.filter_cons]
    by_cases here : node.named = true <;> simp [here, ih]

/-- A chain goes on with the declarator nested in its first one. -/
theorem Node.declarators_eq (node : Node) :
    node.declarators = node :: (node.innerDeclarator?.map Node.declarators).getD [] := by
  cases node with
  | mk kind named field start stop children =>
    rw [Node.declarators, fieldDeclarators_eq, firstNamedDeclarators_eq]
    unfold Node.innerDeclarator? Node.child? Node.firstNamed? Node.namedChildren
    cases nested : children.find? fun child => child.field = "declarator" with
    | none =>
      by_cases reference : kind = "reference_declarator" <;>
        simp [Node.children, Node.kind, nested, reference]
    | some inner =>
      simp only [Node.children, nested, Option.map_some, Option.getD_some, Option.some_or]
      cases inner with
      | mk => rw [Node.declarators]

namespace Grammar.Cpp

/-- The kinds of nodes that name a variable or a data member. -/
def identifierKinds : List String := ["identifier", "field_identifier"]

/-- A declarator leads through those that wrap it to the identifier that it declares. -/
inductive Leads : Node → Node → Prop
  | here {node : Node} (identifier : node.kind ∈ identifierKinds) : Leads node node
  | through {node inner target : Node} (wrapper : node.kind ∈ wrapperKinds)
    (nested : node.innerDeclarator? = some inner) (rest : Leads inner target) : Leads node target

/-- An identifier wraps no declarator. -/
theorem notMem_wrapperKinds {kind : String} (identifier : kind ∈ identifierKinds) :
    kind ∉ wrapperKinds := by
  revert identifier kind
  decide

/-- The identifier at the end of a chain of declarators. -/
def target? (chain : List Node) : Option Node :=
  (chain.dropWhile fun inner => wrapperKinds.contains inner.kind).head?.filter fun inner =>
    inner.kind = "identifier" || inner.kind = "field_identifier"

/-- A chain ends at the identifier that its first declarator leads to. -/
theorem target?_declarators {declarator target : Node} :
    target? declarator.declarators = some target ↔ Leads declarator target := by
  constructor
  · intro found
    generalize same : declarator.declarators = chain at found
    -- The induction is on the chain, whose rest is the chain of the nested declarator.
    induction chain generalizing declarator with
    | nil => cases found
    | cons first chain ih =>
      obtain ⟨rfl, rest⟩ := List.cons.inj (declarator.declarators_eq.symm.trans same)
      unfold target? at found
      by_cases wrapper : declarator.kind ∈ wrapperKinds
      · rw [List.dropWhile_cons_of_pos (by simpa using wrapper)] at found
        cases nested : declarator.innerDeclarator? with
        | none =>
          rw [nested] at rest
          cases rest
          cases found
        | some inner =>
          rw [nested] at rest
          exact .through wrapper nested (ih rest found)
      · rw [List.dropWhile_cons_of_neg (by simpa using wrapper)] at found
        obtain ⟨head, identifier⟩ := Option.filter_eq_some_iff.mp found
        cases head
        exact .here (by simpa [identifierKinds] using identifier)
  · intro leads
    induction leads with
    | here identifier =>
      have wrapper := notMem_wrapperKinds identifier
      unfold target?
      rw [Node.declarators_eq, List.dropWhile_cons_of_neg (by simpa using wrapper)]
      simpa [identifierKinds] using identifier
    | through wrapper nested rest ih =>
      unfold target? at ih ⊢
      rw [Node.declarators_eq, List.dropWhile_cons_of_pos (by simpa using wrapper), nested]
      exact ih

/-- A declaration declares the identifier that its first declarator leads to. -/
theorem variableDeclarator?_eq_some {node target : Node} :
    variableDeclarator? node = some target ↔
      ∃ declarator, node.child? "declarator" = some declarator ∧ Leads declarator target := by
  change target? (fieldDeclarators node.children) = some target ↔ _
  rw [fieldDeclarators_eq]
  unfold Node.child?
  cases node.children.find? fun child => child.field = "declarator" with
  | none => simp [target?]
  | some declarator => simp [target?_declarators]

/-- Whether the identifiers of a tree hold no declarators. -/
def PlainIdentifiers (tree : Node) : Prop :=
  ∀ node ∈ tree.preorder, node.kind ∈ identifierKinds → node.child? "declarator" = none

/-- Whether the identifiers of a tree hold no declarators is decidable. -/
instance (tree : Node) : Decidable (PlainIdentifiers tree) :=
  inferInstanceAs (Decidable (∀ node ∈ tree.preorder, _))

/-- What a declarator leads to is below it. -/
theorem Leads.mem_preorder {declarator target : Node} (leads : Leads declarator target) :
    target ∈ declarator.preorder := by
  have found := target?_declarators.mpr leads
  have head := (Option.filter_eq_some_iff.mp found).1
  exact declarator.declarators_subset
    ((List.dropWhile_suffix _).subset (List.mem_of_mem_head? head))

/-- A declarator leads to an identifier. -/
theorem Leads.identifier {declarator target : Node} (leads : Leads declarator target) :
    target.kind ∈ identifierKinds := by
  induction leads with
  | here identifier => exact identifier
  | through wrapper nested rest ih => exact ih

/-- A declarator that leads to a plain identifier declares no function. -/
theorem Leads.no_function {declarator target : Node} (leads : Leads declarator target)
    (plain : target.child? "declarator" = none) :
    (declarator.declarators.find? fun inner => inner.kind = "function_declarator") = none := by
  induction leads with
  | @here node identifier =>
    have last : node.innerDeclarator? = none := by
      have other : node.kind ≠ "reference_declarator" :=
        fun same => notMem_wrapperKinds identifier (by rw [same]; decide)
      rw [Node.innerDeclarator?, plain, if_neg other, Option.none_or]
    have other : node.kind ≠ "function_declarator" := by
      intro same
      rw [same] at identifier
      revert identifier
      decide
    rw [Node.declarators_eq, last]
    simp [other]
  | @through node inner target wrapper nested rest ih =>
    have other : node.kind ≠ "function_declarator" := by
      intro same
      rw [same] at wrapper
      revert wrapper
      decide
    rw [Node.declarators_eq, nested, List.find?_cons_of_neg (by simpa using other)]
    exact ih plain

end Grammar.Cpp

/-! ## Listed variables -/

namespace Outline

variable {grammar : Grammar} {source : String} {tree : Node} {place : Place}

/-- Whether a listing has a variable with a name and a range. -/
def ListsVariable (grammar : Grammar) (source : String) (tree : Node) (name : String)
    (range : Nat × Nat) : Prop :=
  ∃ symbol ∈ symbols grammar source tree,
    symbol.kind = .variable ∧ symbol.name = name ∧ symbol.range = range

/-- Placing a symbol neither makes it a variable nor another thing of a variable. -/
@[simp]
theorem placeUnder_eq_variable (parent? : Option Symbol) (symbol : Symbol) :
    (placeUnder parent? symbol).kind = .variable ↔ symbol.kind = .variable := by
  cases parent? with
  | none => rfl
  | some parent =>
    simp only [placeUnder]
    split
    · rename_i promoted
      simp [promoted.1]
    · rfl

/-- A declaration with a name that is not blank is described. -/
theorem exists_describe {kind : SymbolKind} {written : String}
    (declared : grammar.declares place = some kind)
    (named : grammar.name source place.node = some written) (visible : Text.trim written ≠ "") :
    ∃ symbol, describe grammar source place = some symbol ∧ symbol.kind = kind ∧
      symbol.name = Text.trim written ∧ symbol.range = (grammar.extent place).range := by
  unfold describe
  rw [declared, named]
  simp only [Option.bind_some, if_neg visible]
  exact ⟨_, rfl, rfl, rfl, rfl⟩

/-- Where every declaration is listed, what a place declares is listed. -/
theorem exists_mem_symbols (all : ∀ node, grammar.scopeOnly node = false) {symbol : Symbol}
    (member : place ∈ tree.allPlaces) (described : describe grammar source place = some symbol) :
    ∃ parent?, placeUnder parent? symbol ∈ symbols grammar source tree := by
  rw [symbols_eq_resolveParents all]
  apply exists_mem_nest
  rw [List.mem_mergeSort, List.mem_map]
  exact ⟨(place.node, symbol), List.mem_filterMap.mpr ⟨place, member, by rw [described]; rfl⟩, rfl⟩

/-- Where every declaration is listed with its own range, the listed variables are those that
the grammar finds, each under its one name. -/
theorem listsVariable_iff (all : ∀ node, grammar.scopeOnly node = false)
    (whole : ∀ place, grammar.extent place = place.node) {name : String} {range : Nat × Nat} :
    ListsVariable grammar source tree name range ↔
      name ≠ "" ∧ ∃ place ∈ tree.allPlaces, place.node.range = range ∧
        grammar.declares place = some .variable ∧
        ∃ written, grammar.name source place.node = some written ∧ Text.trim written = name := by
  constructor
  · rintro ⟨placed, listed, kind, rfl, rfl⟩
    obtain ⟨place, member, symbol, parent?, described, rfl⟩ := mem_symbols listed
    obtain ⟨written, found⟩ := describe_eq_some described
    rw [placeUnder_eq_variable] at kind
    rw [placeUnder_name, placeUnder_range]
    refine ⟨found.visible, place, member, ?_, kind ▸ found.declared, written, found.named,
      found.name.symm⟩
    rw [found.range, whole]
  · rintro ⟨visible, place, member, rfl, declared, written, named, rfl⟩
    obtain ⟨symbol, described, kind, name, range⟩ := exists_describe declared named visible
    obtain ⟨parent?, listed⟩ := exists_mem_symbols all member described
    refine ⟨_, listed, ?_, ?_, ?_⟩
    · rwa [placeUnder_eq_variable]
    · rwa [placeUnder_name]
    · rw [placeUnder_range, range, whole]

/-- What holds of the node of some place holds of some node of the tree. -/
theorem exists_place_iff {holds : Node → Prop} :
    (∃ place ∈ tree.allPlaces, holds place.node) ↔ ∃ node ∈ tree.preorder, holds node := by
  rw [← tree.map_node_places [] []]
  simp only [List.mem_map, exists_exists_and_eq_and]
  rfl

end Outline

namespace Grammar

open Outline

variable {source name : String} {tree : Node} {range : Nat × Nat}

/-- The node that a Go specification goes by: the first of its names, or else the first
identifier in it. -/
def Go.lead? (node : Node) : Option Node :=
  (node.child? "name").or
    (node.namedChildren.find? fun child => Text.endsWith "identifier" child.kind)

/-- The specifications of variables and constants in Go. -/
def Go.specKinds : List String := ["const_spec", "var_spec"]

/-- Only specifications are variables in Go. -/
theorem Go.declares_eq_variable {place : Place} :
    Go.declares place = some .variable ↔ place.node.kind ∈ Go.specKinds := by
  unfold Go.declares Place.kind
  split
  · simp [Go.specKinds, *]
  · simp [Go.specKinds, *]
  · split <;> simp [Go.specKinds, *]
  · simp [Go.specKinds, *]
  · simp [Go.specKinds, *]
  · simp [Go.specKinds, *]
  · simp_all [Go.specKinds]

/-- A Go declaration is named by the node that it goes by. -/
theorem Go.name_eq (node : Node) :
    go.name source node = (Go.lead? node).map (Node.text source) := by
  change ((node.child? "name").map _).orElse _ = _
  unfold Go.lead? Node.firstIdentifier?
  cases node.child? "name" <;> rfl

/-- The variables listed for Go are the specifications, each under its first name. -/
theorem Go.listsVariable_iff :
    ListsVariable go source tree name range ↔
      name ≠ "" ∧ ∃ node ∈ tree.preorder, node.range = range ∧ node.kind ∈ Go.specKinds ∧
        ∃ lead, Go.lead? node = some lead ∧ Text.trim (lead.text source) = name := by
  rw [Outline.listsVariable_iff (fun _ => rfl) (fun _ => rfl), ← exists_place_iff]
  change _ ∧ (∃ place ∈ _, _ ∧ Go.declares place = _ ∧ _) ↔ _
  simp only [Go.declares_eq_variable, Go.name_eq, Option.map_eq_some_iff, exists_exists_and_eq_and]

/-- The declarations of variables and data members in C++. -/
def Cpp.declarationKinds : List String := ["declaration", "field_declaration"]

/-- A declaration of a plain identifier declares no function. -/
theorem Cpp.functionDeclarator?_eq_none {node target : Node}
    (found : variableDeclarator? node = some target) (plain : target.child? "declarator" = none) :
    functionDeclarator? node = none := by
  obtain ⟨declarator, first, leads⟩ := variableDeclarator?_eq_some.mp found
  unfold functionDeclarator?
  rw [fieldDeclarators_eq]
  unfold Node.child? at first
  rw [first]
  exact leads.no_function plain

/-- Only declarations that declare an identifier are variables in C++. -/
theorem Cpp.declares_eq_variable {place : Place}
    (declared : Cpp.declares place = some .variable) :
    place.node.kind ∈ Cpp.declarationKinds := by
  unfold Cpp.declares at declared
  simp only at declared
  split at declared
  case h_2 kind => rw [kind]; decide
  case h_3 kind => rw [kind]; decide
  all_goals first | cases declared | (split at declared <;> cases declared)

/-- The declarations that declare a plain identifier are variables in C++, under its text. -/
theorem Cpp.declares_named {place : Place}
    (plain : ∀ target, variableDeclarator? place.node = some target →
      target.child? "declarator" = none) :
    (Cpp.declares place = some .variable ∧
        ∃ written, Cpp.name source place.node = some written ∧ Text.trim written = name) ↔
      place.node.kind ∈ Cpp.declarationKinds ∧
        ∃ target, variableDeclarator? place.node = some target ∧
          Text.trim (target.text source) = name := by
  by_cases kind : place.node.kind ∈ Cpp.declarationKinds
  · have either : place.node.kind = "declaration" ∨ place.node.kind = "field_declaration" := by
      simpa [Cpp.declarationKinds] using kind
    unfold Cpp.declares Cpp.name
    cases found : variableDeclarator? place.node with
    | none =>
      have other : (if (functionDeclarator? place.node).isSome then some SymbolKind.function
          else none) ≠ some .variable := by
        split <;> exact nofun
      obtain same | same := either <;> simp [same, found, other]
    | some target =>
      have function := Cpp.functionDeclarator?_eq_none found (plain target found)
      obtain same | same := either <;> simp [same, function, found, Cpp.declarationKinds]
  · constructor
    · rintro ⟨declared, _⟩
      exact absurd (Cpp.declares_eq_variable declared) kind
    · rintro ⟨same, _⟩
      exact absurd same kind

/-- The variables listed for C++ are the declarations, each under the identifier that its first
declarator leads to. -/
theorem Cpp.listsVariable_iff (plain : PlainIdentifiers tree) :
    ListsVariable cpp source tree name range ↔
      name ≠ "" ∧ ∃ node ∈ tree.preorder, node.range = range ∧ node.kind ∈ Cpp.declarationKinds ∧
        ∃ declarator target, node.child? "declarator" = some declarator ∧
          Leads declarator target ∧ Text.trim (target.text source) = name := by
  have below {node : Node} (member : node ∈ tree.preorder) (target : Node)
      (found : variableDeclarator? node = some target) : target.child? "declarator" = none := by
    obtain ⟨declarator, first, leads⟩ := variableDeclarator?_eq_some.mp found
    have inside : target ∈ tree.preorder :=
      Node.preorder_subset (Node.preorder_subset member (Node.mem_preorder_of_child? first))
        leads.mem_preorder
    exact plain target inside leads.identifier
  rw [Outline.listsVariable_iff (fun _ => rfl) (fun _ => rfl)]
  refine and_congr_right fun _ => ?_
  rw [← exists_place_iff]
  refine exists_congr fun place => and_congr_right fun member => and_congr_right fun _ => ?_
  refine (Cpp.declares_named (below (Place.node_mem_preorder member))).trans ?_
  refine and_congr_right fun _ => ⟨?_, ?_⟩
  · rintro ⟨target, found, text⟩
    obtain ⟨declarator, first, leads⟩ := variableDeclarator?_eq_some.mp found
    exact ⟨declarator, target, first, leads, text⟩
  · rintro ⟨declarator, target, first, leads, text⟩
    exact ⟨target, variableDeclarator?_eq_some.mpr ⟨declarator, first, leads⟩, text⟩

/-- The variables that a listing has are those that go by the first name of a declaration, in Go
as in C++. A declaration of several names has one of them listed. -/
theorem variables_by_first_name (source : String) (tree : Node) (name : String)
    (range : Nat × Nat) :
    (ListsVariable go source tree name range ↔
      name ≠ "" ∧ ∃ node ∈ tree.preorder, node.range = range ∧ node.kind ∈ Go.specKinds ∧
        ∃ lead, Go.lead? node = some lead ∧ Text.trim (lead.text source) = name) ∧
    (Cpp.PlainIdentifiers tree →
      (ListsVariable cpp source tree name range ↔
        name ≠ "" ∧ ∃ node ∈ tree.preorder, node.range = range ∧
          node.kind ∈ Cpp.declarationKinds ∧
          ∃ declarator target, node.child? "declarator" = some declarator ∧
            Cpp.Leads declarator target ∧ Text.trim (target.text source) = name)) :=
  ⟨Go.listsVariable_iff, Cpp.listsVariable_iff⟩

/-- A Go text that declares two variables at once. -/
def pairGo : String := "package p\n\nvar a, b int\n"

/-- The specification in that text. -/
def pairSpec : Node :=
  .mk "var_spec" true "" 15 23
    [.mk "identifier" true "name" 15 16 [],
     .mk "," false "name" 16 17 [],
     .mk "identifier" true "name" 18 19 [],
     .mk "type_identifier" true "type" 20 23 []]

/-- The tree of that text. -/
def pairGoTree : Node :=
  .mk "source_file" true "" 0 24
    [.mk "package_clause" true "" 0 9
      [.mk "package" false "" 0 7 [],
       .mk "package_identifier" true "" 8 9 []],
     .mk "\n" false "" 9 11 [],
     .mk "var_declaration" true "" 11 23
      [.mk "var" false "" 11 14 [],
       pairSpec],
     .mk "\n" false "" 23 24 []]

/-- The specification is in the tree. -/
theorem pairSpec_mem : pairSpec ∈ pairGoTree.preorder := by
  simp [pairGoTree, pairSpec, Node.preorder, forestPreorder]

/-- A C++ text that declares two variables at once. -/
def pairCpp : String := "int x, y;\n"

/-- The declaration in that text. -/
def pairDeclaration : Node :=
  .mk "declaration" true "" 0 9
    [.mk "primitive_type" true "type" 0 3 [],
     .mk "identifier" true "declarator" 4 5 [],
     .mk "," false "" 5 6 [],
     .mk "identifier" true "declarator" 7 8 [],
     .mk ";" false "" 8 9 []]

/-- The tree of that text. -/
def pairCppTree : Node := .mk "translation_unit" true "" 0 10 [pairDeclaration]

/-- The declaration is in the tree. -/
theorem pairDeclaration_mem : pairDeclaration ∈ pairCppTree.preorder := by
  simp [pairCppTree, pairDeclaration, Node.preorder, forestPreorder]

/-- Of two variables declared at once, the first is listed. -/
theorem variables_by_first_name_pair :
    ListsVariable go pairGo pairGoTree "a" (15, 23) ∧
    Cpp.PlainIdentifiers pairCppTree ∧ ListsVariable cpp pairCpp pairCppTree "x" (0, 9) := by
  have plain : Cpp.PlainIdentifiers pairCppTree := by decide
  refine ⟨?_, plain, ?_⟩
  · apply (variables_by_first_name pairGo pairGoTree "a" (15, 23)).1.mpr
    exact ⟨by decide, pairSpec, pairSpec_mem, rfl, by decide, _, rfl, by decide +kernel⟩
  · apply ((variables_by_first_name pairCpp pairCppTree "x" (0, 9)).2 plain).mpr
    exact ⟨by decide, pairDeclaration, pairDeclaration_mem, rfl, by decide, _, _, rfl,
      .here (by decide), by decide +kernel⟩

/-- Of two variables declared at once, the second is in no listing, as a variable or otherwise. -/
theorem variables_by_first_name_rest :
    (∃ child ∈ pairSpec.children, child.kind = "identifier" ∧ child.field = "name" ∧
      pairSpec ∈ pairGoTree.preorder ∧ pairSpec.kind = "var_spec" ∧ child.text pairGo = "b" ∧
      ∀ symbol ∈ symbols go pairGo pairGoTree, symbol.name ≠ "b") ∧
    ∃ child ∈ pairDeclaration.children, child.field = "declarator" ∧ Cpp.Leads child child ∧
      pairDeclaration ∈ pairCppTree.preorder ∧ pairDeclaration.kind = "declaration" ∧
      child.text pairCpp = "y" ∧
      ∀ symbol ∈ symbols cpp pairCpp pairCppTree, symbol.name ≠ "y" := by
  constructor
  · refine ⟨.mk "identifier" true "name" 18 19 [], by simp [pairSpec, Node.children], rfl, rfl,
      pairSpec_mem, rfl, by decide +kernel, ?_⟩
    rw [symbols_of_sorted (by decide +kernel)]
    decide +kernel
  · refine ⟨.mk "identifier" true "declarator" 7 8 [], by simp [pairDeclaration, Node.children],
      rfl, .here (by decide), pairDeclaration_mem, rfl, by decide +kernel, ?_⟩
    rw [symbols_of_sorted (by decide +kernel)]
    decide +kernel

end Grammar

end CodeAtlas
