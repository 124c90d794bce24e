import CodeAtlas.Proofs.Engine.Definitions
import CodeAtlas.Proofs.Outline.Ancestors
import CodeAtlas.Proofs.Outline.Canonical
import CodeAtlas.Proofs.Server.Reached
import CodeAtlas.Proofs.Text.Lines
import CodeAtlas.Proofs.Tree.Fits
import CodeAtlas.Proofs.Tree.Preorder

/-!
# Matches in document order

A search for calls goes through the tree in preorder, and a search for definitions through
the listing of its symbols. Both therefore report lines that do not go back. A call stands in
the text of every call around it, so whatever is found in an inner call is found in the outer
ones, which come first.
-/

namespace CodeAtlas

/-! ## Call sites -/

/-- Whether a node is a call in a language. -/
def Node.isCall (language : Language) (node : Node) : Bool :=
  node.named && language.grammar.callKinds.contains node.kind

/-- The places of the calls in a tree whose text contains a target, in preorder. -/
def callSites (unit : SourceUnit) (target : String) (tree : Node) : List Place :=
  tree.allPlaces.filter fun place =>
    place.node.isCall unit.language && Text.contains target (place.node.text unit.text)

/-- The calls that a search finds are those at the call sites. -/
theorem map_node_callSites (unit : SourceUnit) (target : String) (tree : Node) :
    (callSites unit target tree).map Place.node =
      (tree.preorder.filter (Node.isCall unit.language)).filter fun node =>
        Text.contains target (node.text unit.text) := by
  rw [← tree.map_node_places [] [], List.filter_filter, List.filter_map]
  unfold callSites Node.allPlaces
  congr 2
  funext place
  exact Bool.and_comm _ _

/-- A compiled call pattern captures the calls of its language. -/
theorem captures?_callPattern {analyzer : Analyzer} {language : Language}
    {pattern : CompiledPattern} (compiled : analyzer.callPattern language = .ok pattern) :
    pattern.captures? "call" = Node.isCall language := by
  funext node
  unfold CompiledPattern.captures? Node.isCall
  rw [Analyzer.callPattern_captures compiled, List.any_map]
  congr 1
  rw [Bool.eq_iff_iff]
  simp

section

variable {unit : SourceUnit} {target : String} {tree : Node}

/-- Without calls there are no call sites. -/
theorem callSites_eq_nil
    (none : ∀ node ∈ tree.preorder, node.isCall unit.language = false) :
    callSites unit target tree = [] := by
  refine List.filter_eq_nil_iff.mpr fun place listed => ?_
  rw [none place.node (Place.node_mem_preorder listed)]
  exact Bool.false_ne_true

/-- The lines on which the call sites of a well-formed tree start do not go back. -/
theorem callSites_sorted (wellFormed : tree.WellFormed) (fits : tree.Fits unit.text) :
    (callSites unit target tree).Pairwise fun first second =>
      first.node.startRow unit.text ≤ second.node.startRow unit.text := by
  have starts := wellFormed.preorder_sorted fun inner member => (fits inner member).1
  rw [← tree.map_node_places [] [], List.pairwise_map] at starts
  exact (starts.filter _).imp fun ordered => Chars.row_mono unit.text.toList ordered

/-- A call around a call site is a call site and comes before it. -/
theorem mem_of_callSites_eq_append (wellFormed : tree.WellFormed) (fits : tree.Fits unit.text)
    {earlier later : List Place} {inner outer : Place}
    (parts : callSites unit target tree = earlier ++ inner :: later)
    (around : outer ∈ inner.ancestors) (called : outer.node.isCall unit.language = true) :
    outer ∈ earlier := by
  obtain ⟨front, rest, whole, rfl, others⟩ := List.filter_eq_append_iff.mp parts
  obtain ⟨skipped, last, rfl, refused, accepted, rfl⟩ := List.filter_eq_cons_iff.mp others
  have listed : inner ∈ tree.allPlaces := by
    rw [whole]
    exact List.mem_append_right _ (List.mem_append_right _ List.mem_cons_self)
  -- The target stands in the inner call and so in the outer one.
  obtain ⟨member, below⟩ := Place.ancestor_mem_preorder listed around
  have wider : Text.contains target (outer.node.text unit.text) = true :=
    Text.contains_of_infix (fits.text_infix wellFormed member below)
      (Bool.and_eq_true_iff.mp accepted).2
  have taken : (outer.node.isCall unit.language &&
      Text.contains target (outer.node.text unit.text)) = true :=
    Bool.and_eq_true_iff.mpr ⟨called, wider⟩
  rw [← List.append_assoc] at whole
  obtain found | between := List.mem_append.mp (Place.ancestors_precede whole around)
  · exact List.mem_filter.mpr ⟨found, taken⟩
  · exact absurd taken (refused outer between)

end

/-! ## Symbols -/

/-- The lines on which the symbols of a listing start do not go back. -/
theorem Outline.symbols_startLine_sorted (grammar : Grammar) (source : String) (tree : Node) :
    (symbols grammar source tree).Pairwise fun first second =>
      first.startLine ≤ second.startLine := by
  have line {symbol : Symbol} (member : symbol ∈ symbols grammar source tree) :
      symbol.startLine = Text.row symbol.startByte source + 1 := by
    obtain ⟨place, _, symbol, parent?, described, rfl⟩ := mem_symbols member
    obtain ⟨_, found⟩ := describe_eq_some described
    rw [placeUnder_startLine, placeUnder_startByte, found.startLine, Node.startRow]
    rw [(Prod.mk.inj found.range).1]
  have sorted : (symbols grammar source tree).Pairwise fun first second =>
      precedes first second :=
    (resolveParents_sorted _).filter _
  refine sorted.imp_of_mem fun left right before => ?_
  rw [line left, line right]
  exact Nat.add_le_add_right
    (Chars.row_mono source.toList (startByte_le_of_precedes before)) 1

/-! ## Searches for calls -/

namespace Engine

variable {engine : Engine} {identity : String} {unit : SourceUnit} {query : Query}
  {caches after : Caches} {parsed : ParsedTree}

/-- The match that a search for calls makes of a call site. -/
def callMatch (identity : String) (unit : SourceUnit) (query : Query) (place : Place) : Match :=
  (callHit unit.text place.node).toMatch identity unit query

/-- A search for calls in a tree finds its first call sites. -/
theorem findCalls_ensures_sites (compiles : engine.analyzer.PatternsCompile)
    (supported : engine.analyzer.registry.supports unit.language = true) (parsed : ParsedTree)
    (query : Query) {cap : Nat} (positive : cap ≠ 0) :
    Caches.Ensures engine.analyzer (engine.findCalls parsed unit query cap).run
      (Caches.Outcome (fun _ => False) fun hits =>
        hits = ((callSites unit query.target parsed.tree).take cap).map fun place =>
          callHit unit.text place.node) := by
  unfold findCalls
  apply (Analyzer.compileFor_ensures_of_supports compiles supported _).bindExcept
  rintro _ ⟨pattern, rfl, compiled⟩
  have index := Analyzer.callPattern_index compiled
  simp only
  rw [if_neg (by simp [Option.isNone_iff_eq_none, Option.isSome_iff_ne_none.mp index])]
  refine Caches.ensures_return ?_
  rw [scanCalls_eq positive, captures?_callPattern compiled, ← map_node_callSites,
    ← List.map_take, List.map_map]
  rfl

/-- From caches with the right patterns, a search of a text that can be parsed for its calls
finds the first call sites. It is assumed that no calls are parsed out of a blank text. -/
theorem searchSource_eq_callSites (kind : query.kind = .functionCalls)
    (compiles : engine.analyzer.PatternsCompile)
    (right : caches.PatternsSound engine.analyzer)
    (parses : (engine.analyzer.parse identity unit).runFrom caches = (.ok parsed, after))
    (visible : Text.isBlank unit.text = true →
      ∀ node ∈ parsed.tree.preorder, node.isCall unit.language = false) :
    ((engine.searchSource identity unit query).runFrom caches).1 =
      .ok (((callSites unit query.target parsed.tree).take query.maxResults).map
        (callMatch identity unit query)) := by
  unfold searchSource
  by_cases blank : Text.isBlank unit.text = true
  · rw [if_pos blank, callSites_eq_nil (visible blank), List.take_nil]
    rfl
  rw [if_neg blank]
  by_cases spent : query.maxResults = 0
  · rw [spent, List.take_zero]
    rfl
  have supported := Analyzer.supports_of_parse parses
  have kept := (engine.analyzer.parse_ensures identity unit).patternsSound right parses
  obtain ⟨hits, left, found, rfl⟩ := (findCalls_ensures_sites compiles supported parsed query
    spent).exists_runFrom kept
  have searched : (engine.searchUnit identity unit query query.maxResults).runFrom caches =
      (.ok (((callSites unit query.target parsed.tree).take query.maxResults).map
        (callMatch identity unit query)), left) := by
    unfold searchUnit
    rw [if_neg spent, Analysis.runFrom_bind_ok parses, kind]
    simp only
    rw [Analysis.runFrom_bind_ok found, List.map_map]
    rfl
  rw [Analysis.runFrom_tryCatch_ok _ searched]

/-! ## Searches for definitions -/

/-- A search of a text that can be parsed for its definitions reports lines that do not go
back. -/
theorem searchSource_definitions_sorted (kind : query.kind = .symbolDefinitions)
    (parses : (engine.analyzer.parse identity unit).runFrom caches = (.ok parsed, after)) :
    ∃ found, ((engine.searchSource identity unit query).runFrom caches).1 = .ok found ∧
      found.Pairwise fun first second => first.startLine ≤ second.startLine := by
  have listed := Analyzer.symbols_of_parse parses
  obtain ⟨left, _, _, searched⟩ := searchSource_eq_wanted kind listed
  refine ⟨_, by rw [searched], List.pairwise_map.mpr ?_⟩
  have sorted := Outline.symbols_startLine_sorted unit.language.grammar unit.text parsed.tree
  exact (sorted.filter _).sublist (List.take_sublist _ _)

/-! ## Both searches -/

/-- A search of a text reports its matches in document order. From whatever caches an engine
can be in, a text with a well-formed tree that fits it is searched for calls by going through
the nodes in preorder: what is found are the first named nodes, up to the cap, that are calls
and whose text contains the target. The lines on which they start do not go back, and a call
around a call site is a call site and comes before it. Nor do the lines go back in a search
for definitions. It is assumed that the call patterns can be compiled, and that no calls are
parsed out of a blank text. -/
theorem searchSource_in_order (engine : Engine) (identity : String) (unit : SourceUnit)
    (query : Query) (hashed : List Source) (caches after : Caches) (parsed : ParsedTree)
    (reached : Reached engine.config engine.analyzer hashed caches)
    (compiles : engine.analyzer.PatternsCompile)
    (parses : (engine.analyzer.parse identity unit).runFrom caches = (.ok parsed, after))
    (wellFormed : parsed.tree.WellFormed) (fits : parsed.tree.Fits unit.text)
    (visible : Text.isBlank unit.text = true →
      ∀ node ∈ parsed.tree.preorder, node.isCall unit.language = false) :
    let sites := callSites unit query.target parsed.tree
    let calls : Query := { query with kind := .functionCalls }
    let definitions : Query := { query with kind := .symbolDefinitions }
    sites.map Place.node = ((parsed.tree.preorder.filter (Node.isCall unit.language)).filter
      fun node => Text.contains query.target (node.text unit.text)) ∧
    (∃ found, ((engine.searchSource identity unit calls).runFrom caches).1 = .ok found ∧
      found = (sites.take query.maxResults).map (callMatch identity unit calls) ∧
      found.Pairwise fun first second => first.startLine ≤ second.startLine) ∧
    (∀ earlier inner later, sites = earlier ++ inner :: later →
      ∀ outer ∈ inner.ancestors, outer.node.isCall unit.language = true → outer ∈ earlier) ∧
    ∃ found, ((engine.searchSource identity unit definitions).runFrom caches).1 = .ok found ∧
      found.Pairwise fun first second => first.startLine ≤ second.startLine := by
  intro sites calls definitions
  have right := reached.patternsSound compiles
  have kind : calls.kind = .functionCalls := rfl
  have other : definitions.kind = .symbolDefinitions := rfl
  have searched := searchSource_eq_callSites kind compiles right parses visible
  have sorted : sites.Pairwise fun first second =>
      first.node.startRow unit.text + 1 ≤ second.node.startRow unit.text + 1 :=
    (callSites_sorted wellFormed fits).imp Nat.succ_le_succ
  refine ⟨map_node_callSites unit query.target parsed.tree, ⟨_, searched, rfl, ?_⟩, ?_,
    searchSource_definitions_sorted other parses⟩
  · exact List.pairwise_map.mpr (sorted.sublist (List.take_sublist _ _))
  · intro earlier inner later parts outer around called
    exact mem_of_callSites_eq_append wellFormed fits parts around called

/-- A Python text with a call among the arguments of another one, on a line of its own. -/
def nestedUnit : SourceUnit := ⟨.python, "f(\n  g())\n"⟩

/-- The tree of that text. -/
def nestedTree : Node :=
  .mk "module" true "" 0 10
    [.mk "expression_statement" true "" 0 9
      [.mk "call" true "" 0 9
        [.mk "identifier" true "function" 0 1 [],
         .mk "argument_list" true "arguments" 1 9
          [.mk "(" false "" 1 2 [],
           .mk "call" true "" 5 8
            [.mk "identifier" true "function" 5 6 [],
             .mk "argument_list" true "arguments" 6 8
              [.mk "(" false "" 6 7 [],
               .mk ")" false "" 7 8 []]],
           .mk ")" false "" 8 9 []]]]]

/-- The outer call is found before the inner one, which has the target for its name. -/
theorem searchSource_in_order_nested :
    let query : Query := { kind := .functionCalls, target := "g(", scope := "" }
    nestedTree.WellFormed ∧ nestedTree.Fits nestedUnit.text ∧
    ∃ found,
      (((ofTree nestedTree).searchSource inlineIdentity nestedUnit query).runFrom
        (ofTree nestedTree).freshCaches).1 = .ok found ∧
      found.map (fun hit => (hit.startLine, hit.text)) = [(1, "f(\n  g())"), (2, "g()")] ∧
      ∀ earlier inner later,
        callSites nestedUnit query.target nestedTree = earlier ++ inner :: later →
        ∀ outer ∈ inner.ancestors, outer.node.isCall .python = true → outer ∈ earlier := by
  intro query
  have wellFormed : nestedTree.WellFormed := by decide
  have fits : nestedTree.Fits nestedUnit.text := by decide +kernel
  have compiles : (ofTree nestedTree).analyzer.PatternsCompile :=
    Analyzer.patternsCompile_of_knows fun _ _ _ => rfl
  obtain ⟨⟨_, _, _⟩, after, parses, rfl⟩ : ∃ parsed after,
      ((ofTree nestedTree).analyzer.parse inlineIdentity nestedUnit).runFrom
        (ofTree nestedTree).freshCaches = (.ok parsed, after) ∧ parsed.tree = nestedTree :=
    Analyzer.parse_of_absent inlineIdentity rfl rfl rfl
  obtain ⟨_, ⟨found, searched, hits, _⟩, nested, _⟩ := searchSource_in_order (ofTree nestedTree)
    inlineIdentity nestedUnit query [] (ofTree nestedTree).freshCaches after _ .fresh compiles
    parses wellFormed fits fun blank => absurd blank (by decide)
  have lines : (((callSites nestedUnit query.target nestedTree).take query.maxResults).map
      (callMatch inlineIdentity nestedUnit query)).map (fun hit => (hit.startLine, hit.text)) =
        [(1, "f(\n  g())"), (2, "g()")] := by decide +kernel
  refine ⟨wellFormed, fits, found, searched, ?_, nested⟩
  rw [hits]
  exact lines

end Engine

end CodeAtlas
