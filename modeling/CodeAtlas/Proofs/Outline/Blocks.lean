import CodeAtlas.Proofs.Outline.Ancestors
import CodeAtlas.Proofs.Tree.Apart
import CodeAtlas.Proofs.Tree.Preorder

/-!
# Blocks that implement a type

In Rust a block that implements a type is no declaration of its own. It takes part in the
nesting, and then every symbol with the range of such a block is left out. Nothing else is
left out with it: a block begins with a keyword and every other declaration has a name, and a
node with a token of its own has a range of its own. So exactly the blocks are missing, and a
function right inside one is a method of the type that the block names.
-/

namespace CodeAtlas

namespace Grammar.Rust

open Outline (describe describe_eq_some)

/-! ## Declarations and their tokens -/

/-- The field that a declaration other than a block has its name in. -/
def nameField (node : Node) : String :=
  if node.kind = "let_declaration" then "pattern" else "name"

/-- What the tokens of a tree are like: a block has its keyword, and the name of any other
declaration is a single token. -/
structure Tokens (tree : Node) : Prop where
  keyword : ∀ node ∈ tree.preorder, node.kind = "impl_item" →
    ∃ token ∈ node.children, token.kind = "impl" ∧ token.IsToken
  name : ∀ place ∈ tree.allPlaces, (declares place).isSome = true → place.kind ≠ "impl_item" →
    ∀ child ∈ place.node.child? (nameField place.node), child.children = []

/-- Whether a tree has such tokens is decidable. -/
instance (tree : Node) : Decidable (Tokens tree) :=
  decidable_of_iff
    ((∀ node ∈ tree.preorder, node.kind = "impl_item" →
      ∃ token ∈ node.children, token.kind = "impl" ∧ token.IsToken) ∧
    ∀ place ∈ tree.allPlaces, (declares place).isSome = true → place.kind ≠ "impl_item" →
      ∀ child ∈ place.node.child? (nameField place.node), child.children = [])
    ⟨fun both => ⟨both.1, both.2⟩, fun tokens => ⟨tokens.keyword, tokens.name⟩⟩

variable {source : String} {tree : Node} {place : Place}

/-- The name of a declaration that is no block is the text of the child in its field. -/
theorem name_eq {node : Node} (other : node.kind ≠ "impl_item") :
    name source node = (node.child? (nameField node)).map (Node.text source) := by
  unfold name nameField
  split
  · contradiction
  · rename_i same
    rw [if_pos same]
  · rename_i different
    rw [if_neg different]

/-- A block counts as a class. -/
theorem declares_of_block (block : place.node.kind = "impl_item") :
    declares place = some .class := by
  unfold declares Place.kind
  rw [block]
  rfl

/-- A block goes by the text of its type before the type's arguments. -/
theorem name_of_block {node : Node} (block : node.kind = "impl_item") {written : String}
    (named : name source node = some written) :
    ∃ type, node.child? "type" = some type ∧
      written = Text.trim (String.ofList ((type.text source).toList.takeWhile (· ≠ '<'))) := by
  unfold name at named
  rw [block] at named
  obtain ⟨type, found, rfl⟩ := Option.map_eq_some_iff.mp named
  exact ⟨type, found, by rw [Text.headD_splitAt]⟩

/-- What is described has a token of its own: its keyword, or its name. -/
theorem hasToken_of_describe (tokens : Tokens tree) (member : place ∈ tree.allPlaces)
    {symbol : Symbol} (described : describe rust source place = some symbol) :
    place.node.HasToken := by
  by_cases block : place.node.kind = "impl_item"
  · obtain ⟨token, listed, _, isToken⟩ :=
      tokens.keyword place.node (Place.node_mem_preorder member) block
    exact ⟨token, listed, isToken⟩
  · obtain ⟨written, found⟩ := describe_eq_some described
    have named : name source place.node = some written := found.named
    rw [name_eq block] at named
    obtain ⟨child, field, rfl⟩ := Option.map_eq_some_iff.mp named
    have declared : (declares place).isSome = true := Option.isSome_of_mem found.declared
    have plain := tokens.name place member declared block child field
    refine ⟨child, List.mem_of_find?_eq_some field, plain, ?_⟩
    by_contra empty
    -- Without a text there would be no name.
    rw [Node.text_eq_empty (Nat.le_of_not_lt empty)] at found
    exact found.visible (found.name.trans rfl)

end Grammar.Rust

namespace Outline

open Grammar (rust)
open Grammar.Rust (Tokens hasToken_of_describe)

variable {source : String} {tree : Node} {place : Place} {symbol : Symbol}

/-! ## What is hidden -/

/-- Places with descriptions that have one range have one node. -/
theorem node_eq_of_range (wellFormed : tree.WellFormed) (tokens : Tokens tree) {other : Place}
    {otherSymbol : Symbol} (member : place ∈ tree.allPlaces) (also : other ∈ tree.allPlaces)
    (described : describe rust source place = some symbol)
    (alsoDescribed : describe rust source other = some otherSymbol)
    (same : place.node.range = other.node.range) : place.node = other.node :=
  wellFormed.eq_of_range (Place.node_mem_preorder member) (Place.node_mem_preorder also)
    (hasToken_of_describe tokens member described)
    (hasToken_of_describe tokens also alsoDescribed) same

/-- The range of a declaration is hidden exactly when the declaration is a block. -/
theorem hides_rust (wellFormed : tree.WellFormed) (tokens : Tokens tree)
    (member : place ∈ tree.allPlaces) (described : describe rust source place = some symbol) :
    hides rust source tree place.node.range = true ↔ place.kind = "impl_item" := by
  unfold hides
  simp only [List.any_eq_true, Bool.and_eq_true, Option.isSome_iff_exists, beq_iff_eq]
  constructor
  · rintro ⟨block, listed, ⟨only, scope, accepted⟩, same⟩
    have node := node_eq_of_range wellFormed tokens member listed described accepted same.symm
    unfold Place.kind
    rw [node]
    exact of_decide_eq_true only
  · intro block
    exact ⟨place, member, ⟨decide_eq_true block, symbol, described⟩, rfl⟩

/-- The outline of a Rust text lists exactly the declarations that are no blocks. -/
theorem symbols_rust (wellFormed : tree.WellFormed) (tokens : Tokens tree) :
    symbols rust source tree =
      (tree.allPlaces.filter fun place => place.kind ≠ "impl_item").filterMap fun place =>
        (describe rust source place).map (underAncestor (describe rust source) place) := by
  have faithful : Faithful (describe rust source) :=
    @describe_faithful .rust (by decide) source
  rw [symbols_eq_filter faithful wellFormed, List.filter_filterMap, List.filterMap_filter]
  refine List.filterMap_congr fun place member => ?_
  cases described : describe rust source place with
  | none => simp
  | some symbol =>
    have hidden := hides_rust wellFormed tokens member described
    have range := faithful.range described
    by_cases block : place.kind = "impl_item"
    · simp [range_underAncestor, range, block, hidden.mpr block]
    · have shown := Bool.eq_false_iff.mpr (mt hidden.mp block)
      simp [range_underAncestor, range, block, shown]

/-! ## Methods -/

/-- The closest place above a place that declares something other than a variable. -/
def closest? (accept : Place → Option Symbol) (place : Place) : Option Place :=
  place.ancestors.find? fun outer => (accept outer).any fun scope => scope.kind ≠ .variable

/-- The closest declaration above a place is accepted, and no variable. -/
theorem exists_of_closest {accept : Place → Option Symbol} {outer : Place}
    (closest : closest? accept place = some outer) :
    ∃ scope, accept outer = some scope ∧ scope.kind ≠ .variable := by
  have found := List.find?_some closest
  obtain ⟨some, other⟩ := (Option.any_eq_true_iff_get ..).mp found
  exact ⟨_, (Option.some_get some).symm, of_decide_eq_true other⟩

/-- The closest declaration above a place encloses the symbol there, if it has another
range. -/
theorem enclosing?_of_closest {accept : Place → Option Symbol} {outer : Place} {scope : Symbol}
    (closest : closest? accept place = some outer) (accepted : accept outer = some scope)
    (other : scope.range ≠ symbol.range) : enclosing? accept place symbol = some scope := by
  unfold closest? at closest
  obtain ⟨opens, nearer, farther, parts, before⟩ := List.find?_eq_some_iff_append.mp closest
  rw [accepted, Option.any_some] at opens
  have found : (place.ancestors.find? fun outer => (accept outer).any fun scope =>
      scope.kind.canEnclose && scope.range != symbol.range) = some outer := by
    refine List.find?_eq_some_iff_append.mpr ⟨?_, nearer, farther, parts, fun near member => ?_⟩
    · rw [accepted, Option.any_some]
      simpa [SymbolKind.canEnclose, other] using opens
    · have none := before near member
      revert none
      cases accept near with
      | none => simp
      | some scope => simp +contextual [SymbolKind.canEnclose]
  unfold enclosing?
  rw [List.find?_filterMap, found, Option.bind_some, accepted]

/-- A function whose closest declaration above is a block becomes a method of the type that
the block names. -/
theorem underAncestor_of_block (wellFormed : tree.WellFormed) (tokens : Tokens tree)
    (member : place ∈ tree.allPlaces) (described : describe rust source place = some symbol)
    (function : symbol.kind = .function) {block : Place}
    (closest : closest? (describe rust source) place = some block)
    (isBlock : block.kind = "impl_item") :
    ∃ type, block.node.child? "type" = some type ∧
      underAncestor (describe rust source) place symbol =
        { symbol with
          kind := .method
          parent := some
            (Text.trim (String.ofList ((type.text source).toList.takeWhile (· ≠ '<')))) } := by
  have higher : block ∈ place.ancestors := List.mem_of_find?_eq_some closest
  obtain ⟨scope, accepted, _⟩ := exists_of_closest closest
  obtain ⟨written, found⟩ := describe_eq_some accepted
  obtain ⟨_, self⟩ := describe_eq_some described
  have isClass : scope.kind = .class :=
    Option.some.inj (found.declared.symm.trans (Grammar.Rust.declares_of_block isBlock))
  have other : scope.range ≠ symbol.range := by
    rw [found.range, self.range]
    intro same
    have node := node_eq_of_range wellFormed tokens (Place.ancestor_mem member higher) member
      accepted described same
    -- Then the function would be the block, which counts as a class.
    have block : place.node.kind = "impl_item" := node ▸ isBlock
    have declared := self.declared.symm.trans (Grammar.Rust.declares_of_block block)
    rw [function] at declared
    cases declared
  have enclosing := enclosing?_of_closest closest accepted other
  obtain ⟨type, field, text⟩ := Grammar.Rust.name_of_block isBlock found.named
  refine ⟨type, field, ?_⟩
  have name := found.name
  rw [text, Text.trim_trim] at name
  unfold underAncestor
  simp [enclosing, function, isClass, name, SymbolKind.isClassLike]

/-- The outline of a Rust text lists exactly the declarations that are no blocks, in preorder
and each under its closest ancestor. A function whose closest declaration above, variables
apart, is a block is listed as a method, and its parent is what the block's type is called
before its arguments. -/
theorem only_blocks_hidden (source : String) (tree : Node) (wellFormed : tree.WellFormed)
    (tokens : Tokens tree) :
    (symbols rust source tree =
      (tree.allPlaces.filter fun place => place.kind ≠ "impl_item").filterMap fun place =>
        (describe rust source place).map (underAncestor (describe rust source) place)) ∧
    ∀ place ∈ tree.allPlaces, ∀ symbol block,
      describe rust source place = some symbol → symbol.kind = .function →
      closest? (describe rust source) place = some block → block.kind = "impl_item" →
        ∃ type, block.node.child? "type" = some type ∧
          { symbol with
            kind := .method
            parent := some
              (Text.trim (String.ofList ((type.text source).toList.takeWhile (· ≠ '<')))) } ∈
            symbols rust source tree := by
  have listing := @symbols_rust source tree wellFormed tokens
  refine ⟨listing, fun place member symbol block described function closest isBlock => ?_⟩
  obtain ⟨type, field, placed⟩ :=
    underAncestor_of_block wellFormed tokens member described function closest isBlock
  refine ⟨type, field, ?_⟩
  have shown : place.kind ≠ "impl_item" := by
    intro block
    obtain ⟨_, found⟩ := describe_eq_some described
    have declared := found.declared.symm.trans (Grammar.Rust.declares_of_block block)
    rw [function] at declared
    cases declared
  rw [listing, ← placed]
  refine List.mem_filterMap.mpr ⟨place, List.mem_filter.mpr ⟨member, decide_eq_true shown⟩, ?_⟩
  rw [described, Option.map_some]

/-- A block in Rust for a type with an argument, and in its function a variable. -/
def genericText : String := "impl P<u8>\x7bfn f()\x7blet x=0;\x7d\x7d"

/-- The tree of that block, which covers as much as the whole file. -/
def genericTree : Node :=
  .mk "source_file" true "" 0 28
    [.mk "impl_item" true "" 0 28
      [.mk "impl" false "" 0 4 [],
       .mk "generic_type" true "type" 5 10
        [.mk "type_identifier" true "type" 5 6 [],
         .mk "type_arguments" true "type_arguments" 6 10
          [.mk "<" false "" 6 7 [],
           .mk "primitive_type" true "" 7 9 [],
           .mk ">" false "" 9 10 []]],
       .mk "declaration_list" true "body" 10 28
        [.mk "\x7b" false "" 10 11 [],
         .mk "function_item" true "" 11 27
          [.mk "fn" false "" 11 13 [],
           .mk "identifier" true "name" 14 15 [],
           .mk "parameters" true "parameters" 15 17
            [.mk "(" false "" 15 16 [],
             .mk ")" false "" 16 17 []],
           .mk "block" true "body" 17 27
            [.mk "\x7b" false "" 17 18 [],
             .mk "let_declaration" true "" 18 26
              [.mk "let" false "" 18 21 [],
               .mk "identifier" true "pattern" 22 23 [],
               .mk "=" false "" 23 24 [],
               .mk "integer_literal" true "value" 24 25 [],
               .mk ";" false "" 25 26 []],
             .mk "\x7d" false "" 26 27 []]],
         .mk "\x7d" false "" 27 28 []]]]

/-- The block is not listed, its function is a method of the type without its argument, and
the variable is listed under the function. -/
theorem only_blocks_hidden_generic :
    genericTree.WellFormed ∧ Tokens genericTree ∧
    ((symbols rust genericText genericTree).map fun symbol =>
      (symbol.name, symbol.kind, symbol.parent)) =
        [("f", .method, some "P"), ("x", .variable, some "f")] ∧
    ∃ place ∈ genericTree.allPlaces, ∃ symbol block type,
      describe rust genericText place = some symbol ∧ symbol.kind = .function ∧
      closest? (describe rust genericText) place = some block ∧ block.kind = "impl_item" ∧
      block.node.child? "type" = some type ∧
      { symbol with
        kind := .method
        parent := some
          (Text.trim (String.ofList ((type.text genericText).toList.takeWhile (· ≠ '<')))) } ∈
        symbols rust genericText genericTree := by
  have wellFormed : genericTree.WellFormed := by decide
  have tokens : Tokens genericTree := by decide
  obtain ⟨listing, methods⟩ := only_blocks_hidden genericText genericTree wellFormed tokens
  refine ⟨wellFormed, tokens, ?_, ?_⟩
  · rw [listing]
    decide +kernel
  · have inside : ∃ place ∈ genericTree.allPlaces,
        ((describe rust genericText place).any fun symbol => symbol.kind = .function) = true ∧
        ((closest? (describe rust genericText) place).any fun block =>
          block.kind = "impl_item") = true := by decide +kernel
    obtain ⟨place, member, isFunction, isBlock⟩ := inside
    obtain ⟨some, function⟩ := (Option.any_eq_true_iff_get ..).mp isFunction
    obtain ⟨someBlock, kind⟩ := (Option.any_eq_true_iff_get ..).mp isBlock
    have described := (Option.some_get some).symm
    have closest := (Option.some_get someBlock).symm
    obtain ⟨type, field, listed⟩ := methods place member _ _ described
      (of_decide_eq_true function) closest (of_decide_eq_true kind)
    exact ⟨place, member, _, _, type, described, of_decide_eq_true function, closest,
      of_decide_eq_true kind, field, listed⟩

end Outline

end CodeAtlas
