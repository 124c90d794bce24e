import CodeAtlas.Proofs.Outline.Tightest

/-!
# The last scope around a symbol

Symbols are read once, with a stack. Whatever their ranges are, this gives every symbol that
covers text the parent that a look through the whole sorted list gives: the last symbol that
opens a scope strictly around it. Where ranges overlap without being nested, a scope that has
ended can stay on the stack below one that is open; but it contains no text from there on, so
it is never chosen, and a scope that was dropped is never missed. What comes later in the
list contains nothing that came before, so the look may as well go through all of it.
-/

namespace CodeAtlas.Outline

variable {symbols sorted : List Symbol}

/-! ## Listings -/

/-- A listing of symbols has the same symbols in order, and those of one range as they
came. -/
structure Listing (symbols sorted : List Symbol) : Prop where
  same : sorted.Perm symbols
  ordered : sorted.Pairwise fun first second => precedes first second
  stable : ∀ range, (sorted.filter fun symbol => symbol.range = range) =
    symbols.filter fun symbol => symbol.range = range

/-- Symbols of one range come in any order. -/
theorem precedes_of_range {first second : Symbol} (same : first.range = second.range) :
    precedes first second = true := by
  obtain ⟨start, stop⟩ := Prod.mk.inj same
  rw [precedes_iff]
  omega

/-- Sorting makes a listing. -/
theorem listing_mergeSort (symbols : List Symbol) :
    Listing symbols (symbols.mergeSort precedes) where
  same := List.mergeSort_perm symbols precedes
  ordered := mergeSort_sorted symbols
  stable range := by
    have alike : (symbols.filter fun symbol => symbol.range = range).Pairwise
        fun first second => precedes first second := by
      apply List.pairwise_of_forall_mem_list
      intro first left second right
      have here := of_decide_eq_true (List.mem_filter.mp left).2
      have there := of_decide_eq_true (List.mem_filter.mp right).2
      exact precedes_of_range (here.trans there.symm)
    have kept := (List.sublist_mergeSort precedes_trans precedes_total alike
      List.filter_sublist).filter fun symbol => symbol.range = range
    simp only [List.filter_filter, Bool.and_self] at kept
    have size := ((List.mergeSort_perm symbols precedes).filter fun symbol =>
      decide (symbol.range = range)).length_eq
    exact (kept.eq_of_length size.symm).symm

/-! ## Looking through the whole list -/

/-- The last of the given symbols that opens a scope strictly around a symbol. -/
def lastScope? (symbols : List Symbol) (symbol : Symbol) : Option Symbol :=
  (symbols.filter fun scope => scope.kind.canEnclose && scope.contains symbol).getLast?

/-- The last scope is the first that a search from the end finds. -/
theorem lastScope?_eq (symbols : List Symbol) (symbol : Symbol) :
    lastScope? symbols symbol = scopeAmong? symbols.reverse symbol :=
  List.getLast?_filter

/-- In a listing the last scope around a symbol is the last one before it. -/
theorem lastScope?_of_sorted {earlier later : List Symbol} {symbol : Symbol}
    (ordered : (earlier ++ symbol :: later).Pairwise fun first second =>
      precedes first second) :
    lastScope? (earlier ++ symbol :: later) symbol = scopeAmong? earlier.reverse symbol := by
  have outside : ∀ scope ∈ (symbol :: later).reverse, scope.contains symbol = false := by
    intro scope member
    obtain rfl | further := List.mem_cons.mp (List.mem_reverse.mp member)
    · simp [Symbol.contains]
    · have after := List.rel_of_pairwise_cons (List.pairwise_append.mp ordered).2.1 further
      exact contains_eq_false_of_precedes after
  rw [lastScope?_eq, List.reverse_append, scopeAmong?_append outside]

/-- Each symbol is placed among those that come before it. -/
theorem nestAmong_getElem? (earlier symbols : List Symbol) (index : Nat) :
    (nestAmong earlier symbols)[index]? = symbols[index]?.map fun symbol =>
      placeUnder (scopeAmong? ((symbols.take index).reverse ++ earlier) symbol) symbol := by
  induction symbols generalizing earlier index with
  | nil => rfl
  | cons symbol symbols ih =>
    cases index with
    | zero => rfl
    | succ index =>
      simp only [nestAmong, List.getElem?_cons_succ, ih, List.take_succ_cons, List.reverse_cons,
        List.append_assoc, List.cons_append, List.nil_append]

/-- Every symbol is placed once. -/
theorem nest_length (stack symbols : List Symbol) :
    (nest stack symbols).length = symbols.length := by
  induction symbols generalizing stack with
  | nil => rfl
  | cons symbol symbols ih => rw [nest, List.length_cons, List.length_cons, ih]

/-- For any symbols whatsoever, reading them once with a stack gives, in their listing, each
symbol that covers text the parent that a look through the whole listing gives: the last
symbol that opens a scope strictly around it, or none. -/
theorem resolveParents_exhaustive (symbols : List Symbol) :
    let sorted := symbols.mergeSort precedes
    Listing symbols sorted ∧ (resolveParents symbols).length = sorted.length ∧
      ∀ (index : Nat) (symbol : Symbol), sorted[index]? = some symbol →
        symbol.startByte < symbol.endByte →
          ∃ placed, (resolveParents symbols)[index]? = some placed ∧
            placed = placeUnder (lastScope? sorted symbol) symbol ∧
            placed.parent = (lastScope? sorted symbol).map Symbol.name := by
  intro sorted
  have listing : Listing symbols sorted := listing_mergeSort symbols
  refine ⟨listing, nest_length [] sorted, fun index symbol here covers => ?_⟩
  have searched : (resolveParents symbols)[index]? = (nestAmong [] sorted)[index]? := by
    apply nest_getElem?_of_sorted listing.ordered
    intro other found
    cases here.symm.trans found
    exact covers
  have parts : sorted = sorted.take index ++ symbol :: sorted.drop (index + 1) := by
    obtain ⟨bound, rfl⟩ := List.getElem?_eq_some_iff.mp here
    rw [← List.drop_eq_getElem_cons bound, List.take_append_drop]
  have last := lastScope?_of_sorted (parts ▸ listing.ordered)
  rw [← parts] at last
  refine ⟨_, ?_, rfl, placeUnder_parent _ _⟩
  rw [searched, nestAmong_getElem?, here, Option.map_some, List.append_nil, last]

/-- An empty range at the end of a scope is contained in it, but the scope has ended. -/
example :
    let scope : Symbol := { name := "f", kind := .function, startByte := 0, endByte := 5,
                            startLine := 1, endLine := 1 }
    let empty : Symbol := { scope with name := "g", startByte := 5 }
    (nest [] [scope, empty]).map Symbol.parent = [none, none] ∧
      lastScope? [scope, empty] empty = some scope := by decide

/-- A class and functions in it, of which the second begins in the first and the last begins
in the second. -/
def overlapping : List Symbol :=
  [{ name := "A", kind := .class, startByte := 0, endByte := 100, startLine := 1, endLine := 9 },
   { name := "b", kind := .function, startByte := 10, endByte := 20, startLine := 2, endLine := 3 },
   { name := "c", kind := .function, startByte := 15, endByte := 60, startLine := 2, endLine := 6 },
   { name := "d", kind := .function, startByte := 25, endByte := 30, startLine := 4, endLine := 4 },
   { name := "e", kind := .function, startByte := 50, endByte := 80, startLine := 5, endLine := 8 }]

/-- When the last function is read, the first has ended but is still on the stack, below the
second, which is open and does not contain it. The function is a method of the class. -/
theorem resolveParents_exhaustive_overlapping :
    (overlapping.mergeSort precedes)[4]? = overlapping.getLast? ∧
    ∃ placed, (resolveParents overlapping)[4]? = some placed ∧
      placed.name = "e" ∧ placed.parent = some "A" ∧ placed.kind = .method := by
  have sorted : overlapping.mergeSort precedes = overlapping :=
    List.mergeSort_of_pairwise (by decide)
  obtain ⟨_, _, exhaustive⟩ := resolveParents_exhaustive overlapping
  rw [sorted] at exhaustive ⊢
  obtain ⟨placed, found, rfl, parent⟩ := exhaustive 4 _ rfl (by decide)
  exact ⟨rfl, _, found, by decide, parent.trans (by decide), by decide⟩

end CodeAtlas.Outline
