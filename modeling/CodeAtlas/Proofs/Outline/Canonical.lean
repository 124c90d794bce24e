import CodeAtlas.Proofs.Outline.Tightest
import Mathlib.Data.List.Nodup

/-!
# A canonical form

Giving symbols their parents is done once and for all: doing it again changes nothing, what
parents the symbols had before does not matter, and symbols of different ranges may come in
any order. All this is so because a scope counts only for what placing a symbol keeps, and a
symbol is placed under a scope whatever parent it had.
-/

namespace CodeAtlas.Outline

variable {symbols others stack otherStack : List Symbol} {symbol placed : Symbol}
  {parent? other? : Option Symbol}

/-! ## What a scope counts for -/

/-- What those inside a symbol see of it: its name and its range, whether it opens a scope,
and whether functions right inside are methods. -/
structure ScopeView where
  name : String
  range : Nat × Nat
  opens : Bool
  classLike : Bool
  deriving DecidableEq

/-- What those inside see of a symbol. -/
def scopeView (symbol : Symbol) : ScopeView where
  name := symbol.name
  range := symbol.range
  opens := symbol.kind.canEnclose
  classLike := symbol.kind.isClassLike

/-- A function is not class-like, nor is the method it becomes. -/
@[simp]
theorem placeUnder_isClassLike (parent? : Option Symbol) (symbol : Symbol) :
    (placeUnder parent? symbol).kind.isClassLike = symbol.kind.isClassLike := by
  cases parent? with
  | none => rfl
  | some parent =>
    simp only [placeUnder]
    split
    · rename_i promoted
      rw [promoted.1]
      rfl
    · rfl

/-- Placing a symbol changes nothing for those inside it. -/
@[simp]
theorem scopeView_placeUnder (parent? : Option Symbol) (symbol : Symbol) :
    scopeView (placeUnder parent? symbol) = scopeView symbol := by
  simp [scopeView]

/-- A symbol is placed in the same way under scopes that look the same. -/
theorem placeUnder_congr (same : parent?.map scopeView = other?.map scopeView)
    (symbol : Symbol) : placeUnder parent? symbol = placeUnder other? symbol := by
  cases parent? with
  | none =>
    rw [Option.map_eq_none_iff.mp same.symm]
  | some parent =>
    obtain ⟨other, rfl, alike⟩ := Option.map_eq_some_iff.mp same.symm
    obtain ⟨name, _, _, classLike⟩ := ScopeView.mk.inj alike
    simp only [placeUnder, name, classLike]

/-- Placing a symbol once more under the same scope changes nothing. -/
theorem placeUnder_placeUnder (parent? : Option Symbol) (symbol : Symbol) :
    placeUnder parent? (placeUnder parent? symbol) = placeUnder parent? symbol := by
  cases parent? with
  | none => rfl
  | some parent =>
    simp only [placeUnder]
    split <;> simp

/-! ## The scopes that are found -/

/-- The scopes that the stack finds for sorted symbols. -/
def scopesFound (stack : List Symbol) : List Symbol → List (Option Symbol)
  | [] => []
  | symbol :: symbols =>
    let scopes := stillOpen stack symbol
    (scopes.find? fun scope => scope.contains symbol)
      :: scopesFound (if symbol.kind.canEnclose then symbol :: scopes else scopes) symbols

/-- Symbols are placed under the scopes that are found for them. -/
theorem nest_eq_zipWith (stack symbols : List Symbol) :
    nest stack symbols = List.zipWith placeUnder (scopesFound stack symbols) symbols := by
  induction symbols generalizing stack with
  | nil => rfl
  | cons symbol symbols ih => rw [nest, scopesFound, List.zipWith_cons_cons, ih]

/-- What the stack finds open, seen from inside. -/
theorem map_stillOpen (stack : List Symbol) (symbol : Symbol) :
    (stillOpen stack symbol).map scopeView =
      (stack.map scopeView).dropWhile fun view => view.range.2 ≤ symbol.startByte := by
  rw [List.dropWhile_map]
  rfl

/-- The first scope on a stack that contains a symbol, seen from inside. -/
theorem map_find?_contains (stack : List Symbol) (symbol : Symbol) :
    (stack.find? fun scope => scope.contains symbol).map scopeView =
      (stack.map scopeView).find? fun view => view.range.1 ≤ symbol.startByte &&
        symbol.endByte ≤ view.range.2 && view.range != symbol.range := by
  rw [List.find?_map]
  rfl

/-- Symbols that look the same from inside have scopes that look the same. -/
theorem scopesFound_congr (opened : stack.map scopeView = otherStack.map scopeView)
    (same : symbols.map scopeView = others.map scopeView) :
    (scopesFound stack symbols).map (Option.map scopeView) =
      (scopesFound otherStack others).map (Option.map scopeView) := by
  induction symbols generalizing stack otherStack others with
  | nil =>
    rw [List.map_eq_nil_iff.mp same.symm]
    rfl
  | cons symbol symbols ih =>
    obtain ⟨other, others, rfl, alike, rest⟩ := List.map_eq_cons_iff.mp same.symm
    obtain ⟨_, range, opens, _⟩ := ScopeView.mk.inj alike
    obtain ⟨start, stop⟩ := Prod.mk.inj range
    have scopes : (stillOpen stack symbol).map scopeView =
        (stillOpen otherStack other).map scopeView := by
      rw [map_stillOpen, map_stillOpen, opened, start]
    simp only [scopesFound, List.map_cons]
    congr 1
    · rw [map_find?_contains, map_find?_contains, scopes, range, start, stop]
    · apply ih _ rest.symm
      rw [opens]
      split
      · rw [List.map_cons, List.map_cons, alike, scopes]
      · exact scopes

/-- Symbols are placed in the same way under scopes that look the same. -/
theorem zipWith_placeUnder_congr {scopes otherScopes : List (Option Symbol)}
    (same : scopes.map (Option.map scopeView) = otherScopes.map (Option.map scopeView))
    (symbols : List Symbol) :
    List.zipWith placeUnder scopes symbols = List.zipWith placeUnder otherScopes symbols := by
  induction scopes generalizing otherScopes symbols with
  | nil => rw [List.map_eq_nil_iff.mp same.symm]
  | cons scope? scopes ih =>
    obtain ⟨other?, otherScopes, rfl, alike, rest⟩ := List.map_eq_cons_iff.mp same.symm
    cases symbols with
    | nil => rfl
    | cons symbol symbols =>
      rw [List.zipWith_cons_cons, List.zipWith_cons_cons, placeUnder_congr alike.symm,
        ih rest.symm]

/-- Symbols are placed under the scopes that are found for symbols that look the same. -/
theorem nest_congr (same : symbols.map scopeView = others.map scopeView) :
    nest stack symbols = List.zipWith placeUnder (scopesFound stack others) symbols := by
  rw [nest_eq_zipWith]
  exact zipWith_placeUnder_congr (scopesFound_congr rfl same) symbols

/-! ## Placing symbols again -/

/-- Placing symbols changes nothing for those inside them. -/
theorem map_scopeView_nest (stack symbols : List Symbol) :
    (nest stack symbols).map scopeView = symbols.map scopeView := by
  induction symbols generalizing stack with
  | nil => rfl
  | cons symbol symbols ih =>
    rw [nest, List.map_cons, List.map_cons, ih, scopeView_placeUnder]

/-- Placing symbols once more under the same scopes changes nothing. -/
theorem zipWith_placeUnder_again (scopes : List (Option Symbol)) (symbols : List Symbol) :
    List.zipWith placeUnder scopes (List.zipWith placeUnder scopes symbols) =
      List.zipWith placeUnder scopes symbols := by
  induction scopes generalizing symbols with
  | nil => rfl
  | cons scope? scopes ih =>
    cases symbols with
    | nil => rfl
    | cons symbol symbols => simp only [List.zipWith_cons_cons, placeUnder_placeUnder, ih]

/-- Placed symbols are placed as they stand. -/
theorem nest_nest (stack symbols : List Symbol) :
    nest stack (nest stack symbols) = nest stack symbols := by
  rw [nest_congr (map_scopeView_nest stack symbols), nest_eq_zipWith, zipWith_placeUnder_again]

/-- Symbols that look the same from inside are sorted alike. -/
theorem sorted_congr (same : symbols.map scopeView = others.map scopeView)
    (sorted : others.Pairwise fun first second => precedes first second) :
    symbols.Pairwise fun first second => precedes first second := by
  let before (first second : ScopeView) : Prop :=
    (first.range.1 < second.range.1 ||
      (first.range.1 == second.range.1 && second.range.2 ≤ first.range.2)) = true
  have views : (others.map scopeView).Pairwise before := List.pairwise_map.mpr sorted
  rw [← same] at views
  exact List.pairwise_map.mp views

/-- Symbols are listed in order with their parents. -/
theorem resolveParents_sorted (symbols : List Symbol) :
    (resolveParents symbols).Pairwise fun first second => precedes first second :=
  sorted_congr (map_scopeView_nest [] _) (mergeSort_sorted symbols)

/-- Giving symbols their parents twice is giving them once. -/
theorem resolveParents_again (symbols : List Symbol) :
    resolveParents (resolveParents symbols) = resolveParents symbols := by
  have sorted := resolveParents_sorted symbols
  unfold resolveParents at sorted ⊢
  rw [List.mergeSort_of_pairwise sorted, nest_nest]

/-! ## What becomes of the symbols -/

/-- What placing may make of a symbol: another parent, and a method out of a function. -/
structure Becomes (symbol placed : Symbol) : Prop where
  kept : placed = { symbol with parent := placed.parent, kind := placed.kind }
  kind : placed.kind = symbol.kind ∨ symbol.kind = .function ∧ placed.kind = .method

/-- A placed symbol has become what it may. -/
theorem becomes_placeUnder (parent? : Option Symbol) (symbol : Symbol) :
    Becomes symbol (placeUnder parent? symbol) := by
  cases parent? with
  | none => exact ⟨rfl, .inl rfl⟩
  | some parent =>
    refine ⟨rfl, ?_⟩
    simp only [placeUnder]
    split
    · rename_i promoted
      exact .inr ⟨promoted.1, rfl⟩
    · exact .inl rfl

/-- Every symbol becomes what it may. -/
theorem nest_becomes (stack symbols : List Symbol) :
    List.Forall₂ Becomes symbols (nest stack symbols) := by
  induction symbols generalizing stack with
  | nil => exact .nil
  | cons symbol symbols ih => exact .cons (becomes_placeUnder _ _) (ih _)

/-! ## What does not matter -/

/-- A symbol without what parent it had. -/
def withoutParent (symbol : Symbol) : Symbol := { symbol with parent := none }

/-- A symbol is placed in the same way whatever parent it had. -/
theorem placeUnder_withoutParent (parent? : Option Symbol) (symbol : Symbol) :
    placeUnder parent? (withoutParent symbol) = placeUnder parent? symbol := by
  cases parent? <;> rfl

/-- The parents that symbols had before do not matter. -/
theorem resolveParents_withoutParent (symbols : List Symbol) :
    resolveParents (symbols.map withoutParent) = resolveParents symbols := by
  have sorted : (symbols.map withoutParent).mergeSort precedes =
      (symbols.mergeSort precedes).map withoutParent := by
    rw [List.map_mergeSort]
    exact fun _ _ _ _ => rfl
  have views : ((symbols.mergeSort precedes).map withoutParent).map scopeView =
      (symbols.mergeSort precedes).map scopeView :=
    List.map_map
  unfold resolveParents
  rw [sorted, nest_congr views, nest_eq_zipWith, List.zipWith_map_right]
  simp only [placeUnder_withoutParent]

/-- Symbols of different ranges have one listing. -/
theorem mergeSort_of_perm (apart : (symbols.map Symbol.range).Nodup)
    (same : others.Perm symbols) :
    others.mergeSort precedes = symbols.mergeSort precedes := by
  have perm : (others.mergeSort precedes).Perm (symbols.mergeSort precedes) :=
    ((List.mergeSort_perm others _).trans same).trans (List.mergeSort_perm symbols _).symm
  refine perm.eq_of_pairwise ?_ (mergeSort_sorted others) (mergeSort_sorted symbols)
  intro first second left right before after
  rw [precedes_iff] at before after
  apply List.inj_on_of_nodup_map apart (same.mem_iff.mp (List.mem_mergeSort.mp left))
    (List.mem_mergeSort.mp right)
  exact Prod.ext (by simp only [Symbol.range]; omega) (by simp only [Symbol.range]; omega)

/-- Giving symbols their parents is a canonical form. Doing it twice is doing it once. The
symbols that come out are those that went in, in which nothing but the parent and the kind
has changed, and the kind only from a function to a method. What comes out does not depend on
the parents the symbols had, nor, if their ranges are all different, on the order they were
in. -/
theorem resolveParents_canonical (symbols : List Symbol) :
    resolveParents (resolveParents symbols) = resolveParents symbols ∧
    (∃ sorted, sorted.Perm symbols ∧ List.Forall₂ Becomes sorted (resolveParents symbols)) ∧
    (∀ others, others.map withoutParent = symbols.map withoutParent →
      resolveParents others = resolveParents symbols) ∧
    ((symbols.map Symbol.range).Nodup → ∀ others, others.Perm symbols →
      resolveParents others = resolveParents symbols) := by
  refine ⟨resolveParents_again symbols, ?_, ?_, ?_⟩
  · exact ⟨_, List.mergeSort_perm symbols precedes, nest_becomes [] _⟩
  · intro others same
    rw [← resolveParents_withoutParent, same, resolveParents_withoutParent]
  · intro apart others same
    unfold resolveParents
    rw [mergeSort_of_perm apart same]

/-- The symbols of a class, listed inside out or outside in and with whatever parents, come
out the same. -/
theorem resolveParents_canonical_reversed :
    (insideOut.map Symbol.range).Nodup ∧
    insideOut.reverse.Perm insideOut ∧
    resolveParents insideOut.reverse = resolveParents insideOut ∧
    resolveParents (insideOut.map fun symbol => { symbol with parent := some "held" }) =
      resolveParents insideOut := by
  obtain ⟨_, _, parents, orders⟩ := resolveParents_canonical insideOut
  have apart : (insideOut.map Symbol.range).Nodup := by decide
  exact ⟨apart, List.reverse_perm _, orders apart _ (List.reverse_perm _), parents _ rfl⟩

end CodeAtlas.Outline
