import CodeAtlas.Outline.Basic
import CodeAtlas.Proofs.Grammar.Headers
import CodeAtlas.Proofs.Grammar.Names
import CodeAtlas.Proofs.Outline.Nesting
import Mathlib.Data.List.Find

/-!
# Nesting agrees with the tree

An outline forgets the tree and recovers the nesting of its symbols from byte ranges. In
a well-formed tree nothing is lost by that: the parent of a symbol is the closest
declaration above its node that may have members and has another range, and symbols are
listed in the order of the tree. The argument follows the tree. What has been listed before
a node is what is above it and what has ended before it, and the latter contains nothing
from there on.
-/

namespace CodeAtlas

namespace Outline

/-! ## Symbols by their place in the tree -/

/-- The closest declaration above a place that may have members and whose range differs
from that of a symbol. -/
def enclosing? (accept : Place → Option Symbol) (place : Place) (symbol : Symbol) :
    Option Symbol :=
  (place.ancestors.filterMap accept).find? fun scope =>
    scope.kind.canEnclose && scope.range != symbol.range

/-- A symbol with the parent that the tree gives it. A function right inside something
class-like is a method. -/
def underAncestor (accept : Place → Option Symbol) (place : Place) (symbol : Symbol) : Symbol :=
  let scope? := enclosing? accept place symbol
  { symbol with
    parent := scope?.map Symbol.name
    kind :=
      if symbol.kind = .function ∧ scope?.any (fun scope => scope.kind.isClassLike) then .method
      else symbol.kind }

/-- Whether a declaration that is not listed itself covers exactly a range. -/
def hides (grammar : Grammar) (source : String) (tree : Node) (range : Nat × Nat) : Bool :=
  tree.allPlaces.any fun place =>
    grammar.scopeOnly place.node && (describe grammar source place).isSome &&
      place.node.range == range

/-- The outline of a source text read off its tree: the declarations in preorder whose
range is not hidden, each under its closest ancestor. -/
def treeOutline (grammar : Grammar) (source : String) (tree : Node) : List Symbol :=
  (tree.allPlaces.filter fun place => !hides grammar source tree place.node.range).filterMap
    fun place => (describe grammar source place).map
      (underAncestor (describe grammar source) place)

/-- Placing a symbol under what encloses it. -/
theorem placeUnder_enclosing (accept : Place → Option Symbol) (place : Place) (symbol : Symbol) :
    placeUnder (enclosing? accept place symbol) symbol = underAncestor accept place symbol := by
  unfold underAncestor
  cases enclosing? accept place symbol with
  | none => simp [placeUnder]
  | some scope => simp [placeUnder]

/-! ## Ranges of accepted declarations -/

/-- What is accepted at a place has the range of its node, and covers text. -/
structure Faithful (accept : Place → Option Symbol) : Prop where
  range : ∀ {place symbol}, accept place = some symbol → symbol.range = place.node.range
  covers : ∀ {place symbol}, place.node.WellFormed → accept place = some symbol →
    place.node.start < place.node.stop

/-- Where a symbol stands: inside a node, and covering text. -/
structure Within (symbol : Symbol) (node : Node) : Prop where
  start : node.start ≤ symbol.startByte
  stop : symbol.endByte ≤ node.stop
  covers : symbol.startByte < symbol.endByte

variable {accept : Place → Option Symbol}

/-- What is accepted at a well-formed node stands inside everything around the node. -/
theorem Faithful.within (faithful : Faithful accept) {place : Place} {symbol : Symbol}
    {outer : Node} (accepted : accept place = some symbol) (wellFormed : place.node.WellFormed)
    (inside : place.node.Inside outer) : Within symbol outer := by
  have range := faithful.range accepted
  have covers := faithful.covers wellFormed accepted
  obtain ⟨start, stop⟩ := Prod.mk.inj range
  obtain ⟨above, below⟩ := inside
  exact ⟨by omega, by omega, by omega⟩

/-- What is accepted below a well-formed node stands inside it. -/
theorem Faithful.within_of_mem (faithful : Faithful accept) {node : Node}
    (wellFormed : node.WellFormed) {before : List Node} {above : List Frame} {symbol : Symbol}
    (member : symbol ∈ (node.places before above).filterMap accept) : Within symbol node := by
  obtain ⟨place, listed, accepted⟩ := List.mem_filterMap.mp member
  have below : place.node ∈ node.preorder := by
    rw [← node.map_node_places before above]
    exact List.mem_map_of_mem listed
  obtain ⟨inside, kept⟩ := wellFormed.of_mem_preorder below
  exact faithful.within accepted kept inside

/-- What is accepted below well-formed neighbours stands inside one of them. -/
theorem Faithful.exists_within_of_mem (faithful : Faithful accept) {nodes : List Node}
    (wellFormed : forestWellFormed nodes) {before : List Node} {above : List Frame}
    {symbol : Symbol} (member : symbol ∈ (siblingPlaces before above nodes).filterMap accept) :
    ∃ node ∈ nodes, Within symbol node := by
  obtain ⟨place, listed, accepted⟩ := List.mem_filterMap.mp member
  have below : place.node ∈ forestPreorder nodes := by
    rw [← siblingPlaces_map_node before above nodes]
    exact List.mem_map_of_mem listed
  obtain ⟨node, found, inside, kept⟩ := exists_of_mem_forestPreorder wellFormed below
  exact ⟨node, found, faithful.within accepted kept inside⟩

/-- A symbol precedes what stands inside its node. -/
theorem precedes_of_within {outer inner : Symbol} {node : Node}
    (range : outer.range = node.range) (within : Within inner node) :
    precedes outer inner = true := by
  obtain ⟨start, stop⟩ := Prod.mk.inj range
  obtain ⟨after, ends, _⟩ := within
  rw [precedes_iff]
  omega

/-- A symbol precedes what stands after the end of its node. -/
theorem precedes_of_after {first second : Symbol} {node next : Node} (here : Within first node)
    (there : Within second next) (ordered : node.stop ≤ next.start) :
    precedes first second = true := by
  obtain ⟨_, stop, covers⟩ := here
  obtain ⟨start, _, _⟩ := there
  rw [precedes_iff]
  omega

mutual

/-- The declarations of a well-formed tree are sorted in preorder. -/
theorem places_sorted (faithful : Faithful accept) (before : List Node) (above : List Frame)
    (node : Node) (wellFormed : node.WellFormed) :
    ((node.places before above).filterMap accept).Pairwise fun first second =>
      precedes first second := by
  match node with
  | .mk kind named field start stop children =>
    have below := siblingPlaces_sorted faithful []
      (⟨.mk kind named field start stop children, before⟩ :: above) children
      wellFormed.2.2 wellFormed.2.1
    rw [Node.places]
    cases accepted : accept ⟨.mk kind named field start stop children, before, above⟩ with
    | none =>
      rw [List.filterMap_cons_none accepted]
      exact below
    | some symbol =>
      rw [List.filterMap_cons_some accepted]
      refine List.pairwise_cons.mpr ⟨?_, below⟩
      intro inner member
      obtain ⟨child, listed, within⟩ := faithful.exists_within_of_mem wellFormed.2.2 member
      obtain ⟨after, ends⟩ := wellFormed.1 child listed
      have wide : Within inner (.mk kind named field start stop children) :=
        ⟨Nat.le_trans after within.start, Nat.le_trans within.stop ends, within.covers⟩
      exact precedes_of_within (faithful.range accepted) wide

/-- The declarations of well-formed neighbours in order are sorted in preorder. -/
theorem siblingPlaces_sorted (faithful : Faithful accept) (before : List Node)
    (above : List Frame) (nodes : List Node) (wellFormed : forestWellFormed nodes)
    (ordered : nodes.Pairwise fun first second => first.stop ≤ second.start) :
    ((siblingPlaces before above nodes).filterMap accept).Pairwise fun first second =>
      precedes first second := by
  match nodes with
  | [] => exact List.Pairwise.nil
  | node :: nodes =>
    obtain ⟨first, others⟩ := List.pairwise_cons.mp ordered
    rw [siblingPlaces, List.filterMap_append]
    refine List.pairwise_append.mpr
      ⟨places_sorted faithful before above node wellFormed.1,
        siblingPlaces_sorted faithful (node :: before) above nodes wellFormed.2 others, ?_⟩
    intro earlier here later there
    have within := faithful.within_of_mem wellFormed.1 here
    obtain ⟨next, listed, follows⟩ := faithful.exists_within_of_mem wellFormed.2 there
    exact precedes_of_after within follows (first next listed)

end

/-! ## Parents -/

/-- From an offset on, a search of all earlier declarations finds the same scopes as a
search of those above. -/
def AgreeAbove (accept : Place → Option Symbol) (earlier : List Symbol) (above : List Frame)
    (offset : Nat) : Prop :=
  ∀ symbol : Symbol, offset ≤ symbol.startByte → symbol.startByte < symbol.endByte →
    scopeAmong? earlier symbol = scopeAmong? ((Frame.places above).filterMap accept) symbol

/-- Agreement from an offset on is agreement from every later one on. -/
theorem AgreeAbove.later {earlier : List Symbol} {above : List Frame} {offset later : Nat}
    (agree : AgreeAbove accept earlier above offset) (after : offset ≤ later) :
    AgreeAbove accept earlier above later :=
  fun symbol follows covers => agree symbol (Nat.le_trans after follows) covers

/-- Agreement goes down to the children of a node that is no declaration. -/
theorem AgreeAbove.downNone {earlier : List Symbol} {above : List Frame} {offset : Nat}
    {node : Node} {before : List Node} (agree : AgreeAbove accept earlier above offset)
    (refused : accept ⟨node, before, above⟩ = none) :
    AgreeAbove accept earlier (⟨node, before⟩ :: above) offset := by
  intro symbol follows covers
  rw [Frame.places, List.filterMap_cons_none refused]
  exact agree symbol follows covers

/-- Agreement goes down to the children of a declaration, which is listed before them. -/
theorem AgreeAbove.downSome {earlier : List Symbol} {above : List Frame} {offset : Nat}
    {node : Node} {before : List Node} {scope : Symbol}
    (agree : AgreeAbove accept earlier above offset)
    (accepted : accept ⟨node, before, above⟩ = some scope) :
    AgreeAbove accept (scope :: earlier) (⟨node, before⟩ :: above) offset := by
  intro symbol follows covers
  have further := agree symbol follows covers
  rw [Frame.places, List.filterMap_cons_some accepted]
  unfold scopeAmong? at further ⊢
  rw [List.find?_cons, List.find?_cons, further]

/-- Agreement goes on past the end of a node, with everything below it listed. -/
theorem AgreeAbove.past {earlier below : List Symbol} {above : List Frame} {offset : Nat}
    {node : Node} (agree : AgreeAbove accept earlier above offset)
    (within : ∀ symbol ∈ below, Within symbol node) :
    AgreeAbove accept (below.reverse ++ earlier) above (max offset node.stop) := by
  intro symbol follows covers
  obtain ⟨after, past⟩ := Nat.max_le.mp follows
  rw [scopeAmong?_append]
  · exact agree symbol after covers
  · intro scope member
    have ended := (within scope (List.mem_reverse.mp member)).stop
    exact contains_eq_false (Nat.le_trans ended past) covers

/-- Among the declarations above a place, a scope around its symbol is one with another
range. -/
theorem scopeAmong?_ancestors (faithful : Faithful accept) {place : Place} {symbol : Symbol}
    (accepted : accept place = some symbol)
    (around : ∀ frame ∈ place.above, place.node.Inside frame.node) :
    scopeAmong? (place.ancestors.filterMap accept) symbol = enclosing? accept place symbol := by
  apply List.find?_congr
  intro scope member
  obtain ⟨outer, listed, taken⟩ := List.mem_filterMap.mp member
  obtain ⟨frame, found, same⟩ := Frame.exists_of_mem_places listed
  obtain ⟨after, ends⟩ := around frame found
  rw [← same] at after ends
  obtain ⟨innerStart, innerStop⟩ := Prod.mk.inj (faithful.range accepted)
  obtain ⟨outerStart, outerStop⟩ := Prod.mk.inj (faithful.range taken)
  have starts : scope.startByte ≤ symbol.startByte := by omega
  have stops : symbol.endByte ≤ scope.endByte := by omega
  simp [Symbol.contains, starts, stops]

mutual

/-- The declarations of a tree, placed one after the other, get the parents that the tree
gives them. -/
theorem nestAmong_places (faithful : Faithful accept) (before : List Node) (above : List Frame)
    (node : Node) (wellFormed : node.WellFormed) {earlier : List Symbol}
    (agree : AgreeAbove accept earlier above node.start)
    (around : ∀ frame ∈ above, node.Inside frame.node) :
    nestAmong earlier ((node.places before above).filterMap accept) =
      (node.places before above).filterMap fun place =>
        (accept place).map (underAncestor accept place) := by
  match node with
  | .mk kind named field start stop children =>
    let place : Place := ⟨.mk kind named field start stop children, before, above⟩
    have inside (child : Node) (listed : child ∈ children) (frame : Frame)
        (found : frame ∈ ⟨place.node, before⟩ :: above) : child.Inside frame.node := by
      obtain here | further := List.mem_cons.mp found
      · rw [here]
        exact wellFormed.1 child listed
      · exact (wellFormed.1 child listed).trans (around frame further)
    have starts (child : Node) (listed : child ∈ children) : start ≤ child.start :=
      (wellFormed.1 child listed).1
    rw [Node.places]
    cases accepted : accept place with
    | none =>
      rw [List.filterMap_cons_none accepted, List.filterMap_cons_none (by rw [accepted]; rfl)]
      exact nestAmong_siblingPlaces faithful [] _ children wellFormed.2.2 wellFormed.2.1
        (agree.downNone accepted) starts inside
    | some symbol =>
      have here := faithful.within accepted wellFormed (Node.Inside.refl _)
      rw [List.filterMap_cons_some accepted, List.filterMap_cons_some (by rw [accepted]; rfl),
        nestAmong]
      congr 1
      · rw [agree symbol here.start here.covers, ← placeUnder_enclosing,
          ← scopeAmong?_ancestors faithful accepted around]
        rfl
      · exact nestAmong_siblingPlaces faithful [] _ children wellFormed.2.2 wellFormed.2.1
          (agree.downSome accepted) starts inside

/-- The declarations of neighbours, placed one after the other, get the parents that the
tree gives them. -/
theorem nestAmong_siblingPlaces (faithful : Faithful accept) (before : List Node)
    (above : List Frame) (nodes : List Node) (wellFormed : forestWellFormed nodes)
    (ordered : nodes.Pairwise fun first second => first.stop ≤ second.start)
    {earlier : List Symbol} {offset : Nat} (agree : AgreeAbove accept earlier above offset)
    (after : ∀ node ∈ nodes, offset ≤ node.start)
    (around : ∀ node ∈ nodes, ∀ frame ∈ above, node.Inside frame.node) :
    nestAmong earlier ((siblingPlaces before above nodes).filterMap accept) =
      (siblingPlaces before above nodes).filterMap fun place =>
        (accept place).map (underAncestor accept place) := by
  match nodes with
  | [] => rfl
  | node :: nodes =>
    obtain ⟨first, others⟩ := List.pairwise_cons.mp ordered
    rw [siblingPlaces, List.filterMap_append, List.filterMap_append, nestAmong_append]
    congr 1
    · exact nestAmong_places faithful before above node wellFormed.1
        (agree.later (after node List.mem_cons_self)) (around node List.mem_cons_self)
    · have within : ∀ symbol ∈ (node.places before above).filterMap accept, Within symbol node :=
        fun symbol member => faithful.within_of_mem wellFormed.1 member
      refine nestAmong_siblingPlaces faithful (node :: before) above nodes wellFormed.2 others
        (agree.past within) ?_ fun later listed => around later (List.mem_cons_of_mem node listed)
      intro later listed
      exact Nat.max_le.mpr ⟨after later (List.mem_cons_of_mem node listed), first later listed⟩

end

/-- A symbol keeps its range under its ancestor. -/
theorem range_underAncestor (accept : Place → Option Symbol) (place : Place) (symbol : Symbol) :
    (underAncestor accept place symbol).range = symbol.range := rfl

/-- What is described at a place: it is declared there, is named by what is written, trimmed,
reported with the range and the lines of its extent, and has the header of its node. -/
structure Described (grammar : Grammar) (source : String) (place : Place) (symbol : Symbol)
    (written : String) : Prop where
  declared : grammar.declares place = some symbol.kind
  named : grammar.name source place.node = some written
  name : symbol.name = Text.trim written
  visible : symbol.name ≠ ""
  range : symbol.range = (grammar.extent place).range
  startLine : symbol.startLine = (grammar.extent place).startRow source + 1
  endLine : symbol.endLine = (grammar.extent place).stopRow source + 1
  parameters : symbol.parameters = grammar.parameters source place.node
  returnType : symbol.returnType = (grammar.returnType source place.node).filter (· ≠ "")
  signature : symbol.signature = signature source place.node (grammar.body place.node)

/-- A symbol that a place declares is described there. -/
theorem describe_eq_some {grammar : Grammar} {source : String} {place : Place} {symbol : Symbol}
    (described : describe grammar source place = some symbol) :
    ∃ written, Described grammar source place symbol written := by
  unfold describe at described
  obtain ⟨kind, declared, described⟩ := Option.bind_eq_some_iff.mp described
  obtain ⟨written, named, described⟩ := Option.bind_eq_some_iff.mp described
  simp only at described
  split at described
  · cases described
  · rename_i visible
    cases described
    exact ⟨written, declared, named, rfl, visible, rfl, rfl, rfl, rfl, rfl, rfl⟩

/-- Outside Python, what is described at a place has the range of its node, and covers
text. -/
theorem describe_faithful {language : Language} (other : language ≠ .python) (source : String) :
    Faithful (describe language.grammar source) where
  range := by
    intro place symbol described
    obtain ⟨_, found⟩ := describe_eq_some described
    rw [found.range, Language.extent_eq other]
  covers := by
    intro place symbol wellFormed described
    obtain ⟨written, found⟩ := describe_eq_some described
    by_contra empty
    have blank := language.namesFromInside source place.node written wellFormed
      (Nat.le_of_not_lt empty) found.named
    exact found.visible (found.name.trans blank)

/-- The declarations of a well-formed tree get the parents that the tree gives them. -/
theorem resolveParents_places (faithful : Faithful accept) (tree : Node)
    (wellFormed : tree.WellFormed) :
    resolveParents (tree.allPlaces.filterMap accept) =
      tree.allPlaces.filterMap fun place => (accept place).map (underAncestor accept place) := by
  unfold Node.allPlaces
  have sorted := places_sorted faithful [] [] tree wellFormed
  have covers : ∀ symbol ∈ (tree.places [] []).filterMap accept,
      symbol.startByte < symbol.endByte :=
    fun symbol member => (faithful.within_of_mem wellFormed member).covers
  have agree : AgreeAbove accept [] [] tree.start := fun _ _ _ => rfl
  rw [resolveParents_eq_nestAmong sorted covers]
  exact nestAmong_places faithful [] [] tree wellFormed agree (fun _ none => nomatch none)

/-- Which ranges are hidden can be read off the tree. -/
theorem scopeRanges_contains {grammar : Grammar} {source : String}
    (faithful : Faithful (describe grammar source)) (tree : Node) (range : Nat × Nat) :
    (scopeRanges grammar (declarations grammar source tree)).contains range =
      hides grammar source tree range := by
  rw [Bool.eq_iff_iff, List.contains_iff_mem]
  unfold scopeRanges declarations hides
  simp only [List.mem_map, List.mem_filter, List.mem_filterMap, List.any_eq_true,
    Bool.and_eq_true, Option.isSome_iff_exists, beq_iff_eq, Option.map_eq_some_iff]
  constructor
  · rintro ⟨_, ⟨⟨place, listed, symbol, described, rfl⟩, only⟩, rfl⟩
    exact ⟨place, listed, ⟨only, symbol, described⟩, (faithful.range described).symm⟩
  · rintro ⟨place, listed, ⟨only, symbol, described⟩, rfl⟩
    exact ⟨(place.node, symbol), ⟨⟨place, listed, symbol, described, rfl⟩, only⟩,
      faithful.range described⟩

/-- The outline of a well-formed tree lists its declarations in preorder, each under its
closest ancestor, without those of a hidden range. -/
theorem symbols_eq_filter {grammar : Grammar} {source : String}
    (faithful : Faithful (describe grammar source)) {tree : Node} (wellFormed : tree.WellFormed) :
    symbols grammar source tree =
      (tree.allPlaces.filterMap fun place => (describe grammar source place).map
        (underAncestor (describe grammar source) place)).filter fun symbol =>
          !hides grammar source tree symbol.range := by
  have listed : (declarations grammar source tree).map Prod.snd =
      tree.allPlaces.filterMap (describe grammar source) := by
    unfold declarations
    rw [List.map_filterMap]
    congr
    funext place
    cases describe grammar source place <;> rfl
  unfold symbols
  simp only [listed, scopeRanges_contains faithful]
  rw [resolveParents_places faithful tree wellFormed]

/-- Outside Python, the outline of a well-formed tree is the one read off the tree: its
declarations in preorder, without those whose range a scope-only declaration covers, each
with the closest declaration above it as its parent. -/
theorem symbols_eq_treeOutline (language : Language) (source : String) (tree : Node)
    (other : language ≠ .python) (wellFormed : tree.WellFormed) :
    symbols language.grammar source tree = treeOutline language.grammar source tree := by
  have faithful := describe_faithful other source
  rw [symbols_eq_filter faithful wellFormed, treeOutline, List.filter_filterMap,
    List.filterMap_filter]
  congr
  funext place
  cases described : describe language.grammar source place with
  | none => simp
  | some symbol =>
    have range := faithful.range described
    simp only [Option.map_some, Option.filter_some, range_underAncestor, range]

/-- A block in Rust that implements a type by one function. -/
def implText : String := "impl T\x7bfn f()\x7b\x7d\x7d"

/-- The tree of that block. -/
def implTree : Node :=
  .mk "source_file" true "" 0 16
    [.mk "impl_item" true "" 0 16
      [.mk "impl" false "" 0 4 [],
       .mk "type_identifier" true "type" 5 6 [],
       .mk "declaration_list" true "body" 6 16
        [.mk "\x7b" false "" 6 7 [],
         .mk "function_item" true "" 7 15
          [.mk "fn" false "" 7 9 [],
           .mk "identifier" true "name" 10 11 [],
           .mk "parameters" true "parameters" 11 13 [],
           .mk "block" true "body" 13 15 []],
         .mk "\x7d" false "" 15 16 []]]]

/-- The function in an `impl` block is a method of its type, and the block is not listed. -/
theorem symbols_eq_treeOutline_impl :
    implTree.WellFormed ∧
      (symbols Language.rust.grammar implText implTree).map (fun symbol =>
        (symbol.name, symbol.kind, symbol.parent)) = [("f", .method, some "T")] := by
  have wellFormed : implTree.WellFormed := by decide
  rw [symbols_eq_treeOutline .rust implText implTree (by decide) wellFormed]
  exact ⟨wellFormed, by decide +kernel⟩

end Outline

end CodeAtlas
