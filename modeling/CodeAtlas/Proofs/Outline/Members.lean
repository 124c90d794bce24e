import CodeAtlas.Outline.Basic

/-!
# Members and the scopes they are in

A parent is recorded by its name alone, but it was a symbol of the same list that strictly
contains its member. This holds for every list of symbols and every tree; nothing has to be
well nested. So a symbol whose parent has a name lies inside some listed symbol of that
name, except in Rust, where the block that names the parent is not listed.
-/

namespace CodeAtlas

namespace Outline

/-! ## What placing a symbol keeps -/

variable (parent? : Option Symbol) (symbol : Symbol)

@[simp]
theorem placeUnder_name : (placeUnder parent? symbol).name = symbol.name := by
  cases parent? <;> rfl

@[simp]
theorem placeUnder_startByte : (placeUnder parent? symbol).startByte = symbol.startByte := by
  cases parent? <;> rfl

@[simp]
theorem placeUnder_endByte : (placeUnder parent? symbol).endByte = symbol.endByte := by
  cases parent? <;> rfl

@[simp]
theorem placeUnder_range : (placeUnder parent? symbol).range = symbol.range := by
  cases parent? <;> rfl

@[simp]
theorem placeUnder_startLine : (placeUnder parent? symbol).startLine = symbol.startLine := by
  cases parent? <;> rfl

@[simp]
theorem placeUnder_endLine : (placeUnder parent? symbol).endLine = symbol.endLine := by
  cases parent? <;> rfl

@[simp]
theorem placeUnder_signature : (placeUnder parent? symbol).signature = symbol.signature := by
  cases parent? <;> rfl

@[simp]
theorem placeUnder_parameters : (placeUnder parent? symbol).parameters = symbol.parameters := by
  cases parent? <;> rfl

@[simp]
theorem placeUnder_returnType : (placeUnder parent? symbol).returnType = symbol.returnType := by
  cases parent? <;> rfl

@[simp]
theorem placeUnder_parent : (placeUnder parent? symbol).parent = parent?.map Symbol.name := by
  cases parent? <;> rfl

/-- A function that becomes a method still opens a scope. -/
@[simp]
theorem placeUnder_canEnclose :
    (placeUnder parent? symbol).kind.canEnclose = symbol.kind.canEnclose := by
  cases parent? with
  | none => rfl
  | some parent =>
    simp only [placeUnder]
    split
    · rename_i promoted
      rw [promoted.1]
      rfl
    · rfl

/-- Containment looks at ranges, which placing keeps. -/
@[simp]
theorem contains_placeUnder (other? : Option Symbol) (other : Symbol) :
    (placeUnder other? other).contains (placeUnder parent? symbol) = other.contains symbol := by
  simp [Symbol.contains, Symbol.range]

variable {parent? symbol}

/-! ## Where parents come from -/

/-- A placed symbol is one of the given symbols, and its parent, if it has one, is an open
scope or an earlier symbol that opens one, and contains it. -/
theorem mem_nest {stack symbols : List Symbol} {placed : Symbol}
    (member : placed ∈ nest stack symbols) :
    ∃ symbol ∈ symbols, ∃ parent?, placed = placeUnder parent? symbol ∧
      ∀ parent ∈ parent?, parent.contains symbol = true ∧
        (parent ∈ stack ∨ parent ∈ symbols ∧ parent.kind.canEnclose = true) := by
  induction symbols generalizing stack with
  | nil => exact absurd member List.not_mem_nil
  | cons symbol symbols ih =>
    have open_subset : stillOpen stack symbol ⊆ stack := (List.dropWhile_suffix _).subset
    rcases List.mem_cons.mp member with rfl | later
    · refine ⟨symbol, List.mem_cons_self, _, rfl, fun parent found => ⟨?_, .inl ?_⟩⟩
      · have around := List.find?_some (Option.mem_def.mp found)
        exact around
      · exact open_subset (List.mem_of_find?_eq_some found)
    · obtain ⟨inner, listed, parent?, rfl, origin⟩ := ih later
      refine ⟨inner, List.mem_cons_of_mem _ listed, parent?, rfl, fun parent found => ?_⟩
      obtain ⟨around, place⟩ := origin parent found
      refine ⟨around, ?_⟩
      rcases place with opened | ⟨earlier, opens⟩
      · split at opened
        · rename_i opens
          rcases List.mem_cons.mp opened with rfl | kept
          · exact .inr ⟨List.mem_cons_self, opens⟩
          · exact .inl (open_subset kept)
        · exact .inl (open_subset opened)
      · exact .inr ⟨List.mem_cons_of_mem _ earlier, opens⟩

/-- Every symbol is placed. -/
theorem exists_mem_nest {stack symbols : List Symbol} {symbol : Symbol}
    (member : symbol ∈ symbols) : ∃ parent?, placeUnder parent? symbol ∈ nest stack symbols := by
  induction symbols generalizing stack with
  | nil => exact absurd member List.not_mem_nil
  | cons first symbols ih =>
    rcases List.mem_cons.mp member with rfl | later
    · exact ⟨_, List.mem_cons_self⟩
    · obtain ⟨parent?, placed⟩ := ih later
      exact ⟨parent?, List.mem_cons_of_mem _ placed⟩

/-- A placed symbol with a parent lies strictly inside a placed symbol that has the
parent's name and opens a scope. -/
theorem resolveParents_encloses {symbols : List Symbol} {inner : Symbol} {name : String}
    (member : inner ∈ resolveParents symbols) (child : inner.parent = some name) :
    ∃ owner ∈ resolveParents symbols, owner.name = name ∧ owner.kind.canEnclose = true ∧
      owner.contains inner = true := by
  obtain ⟨symbol, _, parent?, rfl, origin⟩ := mem_nest member
  rw [placeUnder_parent] at child
  obtain ⟨parent, rfl, named⟩ := Option.map_eq_some_iff.mp child
  obtain ⟨around, place⟩ := origin parent rfl
  rcases place with opened | ⟨listed, opens⟩
  · exact absurd opened List.not_mem_nil
  · obtain ⟨outer?, placed⟩ := exists_mem_nest listed
    exact ⟨_, placed, by simp [named], by simp [opens], by simp [around]⟩

/-! ## Listings -/

/-- A listed symbol is described at a place of the tree, and placed. -/
theorem mem_symbols {grammar : Grammar} {source : String} {tree : Node} {placed : Symbol}
    (member : placed ∈ symbols grammar source tree) :
    ∃ place ∈ tree.allPlaces, ∃ symbol parent?, describe grammar source place = some symbol ∧
      placed = placeUnder parent? symbol := by
  obtain ⟨symbol, sorted, parent?, same, _⟩ := mem_nest (List.mem_filter.mp member).1
  obtain ⟨entry, listed, rfl⟩ := List.mem_map.mp (List.mem_mergeSort.mp sorted)
  obtain ⟨place, found, entered⟩ := List.mem_filterMap.mp listed
  obtain ⟨symbol, described, rfl⟩ := Option.map_eq_some_iff.mp entered
  exact ⟨place, found, symbol, parent?, described, same⟩

/-- A sorted list of declarations is placed as it stands. -/
theorem symbols_of_sorted {grammar : Grammar} {source : String} {tree : Node}
    (sorted : ((declarations grammar source tree).map Prod.snd).Pairwise
      fun first second => precedes first second) :
    symbols grammar source tree =
      (nest [] ((declarations grammar source tree).map Prod.snd)).filter fun symbol =>
        !(scopeRanges grammar (declarations grammar source tree)).contains symbol.range := by
  unfold symbols resolveParents
  simp only
  rw [List.mergeSort_of_pairwise sorted]

/-- Where every declaration is listed, all placed symbols are. -/
theorem symbols_eq_resolveParents {grammar : Grammar} (all : ∀ node, grammar.scopeOnly node = false)
    (source : String) (tree : Node) :
    symbols grammar source tree =
      resolveParents ((declarations grammar source tree).map Prod.snd) := by
  have none : scopeRanges grammar (declarations grammar source tree) = [] := by
    unfold scopeRanges
    rw [List.filter_eq_nil_iff.mpr (fun entry _ => by simp [all entry.1]), List.map_nil]
  unfold symbols
  simp only [none]
  exact List.filter_eq_self.mpr fun _ _ => rfl

end Outline

/-- Only Rust has declarations that are not listed. -/
theorem Language.scopeOnly_eq_false {language : Language} (other : language ≠ .rust)
    (node : Node) : language.grammar.scopeOnly node = false := by
  cases language <;> first | exact absurd rfl other | rfl

/-- Outside Rust, a listed symbol with a parent lies strictly inside a listed symbol that
has the parent's name and opens a scope. -/
theorem Outline.symbols_encloses {language : Language} (other : language ≠ .rust)
    {source : String} {tree : Node} {inner : Symbol} {name : String}
    (member : inner ∈ symbols language.grammar source tree) (child : inner.parent = some name) :
    ∃ owner ∈ symbols language.grammar source tree, owner.name = name ∧
      owner.kind.canEnclose = true ∧ owner.contains inner = true := by
  rw [symbols_eq_resolveParents (Language.scopeOnly_eq_false other)] at member ⊢
  exact resolveParents_encloses member child

end CodeAtlas
