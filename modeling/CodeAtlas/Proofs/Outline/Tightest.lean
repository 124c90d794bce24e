import CodeAtlas.Proofs.Outline.Members
import CodeAtlas.Proofs.Outline.Nesting
import Mathlib.Data.List.Forall2

/-!
# The tightest scope

Among symbols that cover text, each is placed under a scope that strictly contains it, such
that no scope strictly inside that one does; a symbol without such a scope stands at the top.
In sorted order a symbol comes before everything that it strictly contains, so the scopes
around a symbol are all earlier ones, and the latest of them is the tightest. Ranges need not
be well nested for this.
-/

namespace CodeAtlas.Outline

variable {symbols all : List Symbol} {symbol scope other : Symbol}

/-- Whether a symbol opens a scope strictly around another. -/
def Encloses (scope symbol : Symbol) : Prop :=
  scope.kind.canEnclose = true ∧ scope.contains symbol = true

/-- A listed symbol that opens a scope around another, with no such scope strictly inside it. -/
structure TightestScope (symbols : List Symbol) (symbol scope : Symbol) : Prop where
  listed : scope ∈ symbols
  encloses : Encloses scope symbol
  tight : ∀ other ∈ symbols, Encloses other symbol → scope.contains other = false

/-- What becomes of a symbol when it is placed among others. -/
structure Nested (symbols : List Symbol) (symbol placed : Symbol) : Prop where
  /-- Nothing but the parent and the kind is changed. -/
  kept : placed = { symbol with parent := placed.parent, kind := placed.kind }
  /-- A symbol has no parent when no scope encloses it, and then keeps its kind. -/
  top : placed.parent = none ↔ ∀ scope ∈ symbols, ¬Encloses scope symbol
  topKind : placed.parent = none → placed.kind = symbol.kind
  /-- Otherwise its parent is a tightest scope, which decides whether it becomes a method. -/
  inside : placed.parent ≠ none → ∃ scope, TightestScope symbols symbol scope ∧
    placed.parent = some scope.name ∧
    (placed.kind = .method ↔
      symbol.kind = .method ∨ symbol.kind = .function ∧ scope.kind.isClassLike = true)
  /-- A symbol becomes nothing but a method. -/
  others : placed.kind ≠ .method → placed.kind = symbol.kind

/-! ## Sorted symbols -/

/-- The order of a listing sorts it. -/
theorem mergeSort_sorted (symbols : List Symbol) :
    (symbols.mergeSort precedes).Pairwise fun first second => precedes first second :=
  List.pairwise_mergeSort precedes_trans precedes_total symbols

/-- A symbol contains nothing that comes before it. -/
theorem contains_eq_false_of_precedes (before : precedes symbol scope = true) :
    scope.contains symbol = false := by
  rw [← Bool.not_eq_true]
  intro around
  rw [precedes_iff] at before
  simp only [Symbol.contains, Symbol.range, Bool.and_eq_true, decide_eq_true_eq, bne_iff_ne,
    ne_eq, Prod.mk.injEq] at around
  omega

/-- Whatever encloses a symbol comes before it. -/
theorem mem_of_encloses {earlier later : List Symbol}
    (sorted : (earlier ++ symbol :: later).Pairwise fun first second => precedes first second)
    (member : scope ∈ earlier ++ symbol :: later) (encloses : Encloses scope symbol) :
    scope ∈ earlier := by
  rcases List.mem_append.mp member with before | after
  · exact before
  · obtain ⟨_, rest, _⟩ := List.pairwise_append.mp sorted
    rcases List.mem_cons.mp after with rfl | further
    · simp [Encloses, Symbol.contains] at encloses
    · have outside := contains_eq_false_of_precedes ((List.pairwise_cons.mp rest).1 scope further)
      rw [Encloses, outside] at encloses
      exact absurd encloses.2 Bool.false_ne_true

/-- The latest earlier scope around a symbol is a tightest one. -/
theorem tightest_of_scopeAmong? {earlier later : List Symbol}
    (sorted : (earlier ++ symbol :: later).Pairwise fun first second => precedes first second)
    (found : scopeAmong? earlier.reverse symbol = some scope) :
    TightestScope (earlier ++ symbol :: later) symbol scope := by
  obtain ⟨encloses, nearer, farther, parts, nothing⟩ := List.find?_eq_some_iff_append.mp found
  rw [Bool.and_eq_true] at encloses
  have order : earlier = farther.reverse ++ scope :: nearer.reverse := by
    rw [← List.reverse_reverse earlier, parts]
    simp
  have listed : scope ∈ earlier := by simp [order]
  refine ⟨List.mem_append_left _ listed, encloses, fun other member around => ?_⟩
  have before := mem_of_encloses sorted member around
  rw [order, List.mem_append, List.mem_cons] at before
  rcases before with further | rfl | between
  · -- A scope further out comes first.
    have ordered := (List.pairwise_append.mp sorted).1
    rw [order] at ordered
    exact contains_eq_false_of_precedes
      ((List.pairwise_append.mp ordered).2.2 other further scope List.mem_cons_self)
  · simp [Symbol.contains]
  · -- A scope further in would have been found.
    have none := nothing other (List.mem_reverse.mp between)
    rw [around.1, around.2] at none
    cases none

/-- A symbol around which no earlier scope is found has no scope around it. -/
theorem not_encloses_of_scopeAmong? {earlier later : List Symbol}
    (sorted : (earlier ++ symbol :: later).Pairwise fun first second => precedes first second)
    (missing : scopeAmong? earlier.reverse symbol = none)
    (member : scope ∈ earlier ++ symbol :: later) : ¬Encloses scope symbol := by
  intro encloses
  have before := mem_of_encloses sorted member encloses
  have nothing := List.find?_eq_none.mp missing scope (List.mem_reverse.mpr before)
  rw [encloses.1, encloses.2] at nothing
  exact nothing rfl

/-! ## Placed symbols -/

/-- A symbol at the top. -/
theorem nested_top (outside : ∀ scope ∈ symbols, ¬Encloses scope symbol) :
    Nested symbols symbol (placeUnder none symbol) where
  kept := rfl
  top := ⟨fun _ => outside, fun _ => rfl⟩
  topKind _ := rfl
  inside some := absurd rfl some
  others _ := rfl

/-- A symbol under a tightest scope. -/
theorem nested_under (tightest : TightestScope symbols symbol scope) :
    Nested symbols symbol (placeUnder (some scope) symbol) where
  kept := rfl
  top := ⟨fun none => (nomatch none),
    fun outside => absurd tightest.encloses (outside scope tightest.listed)⟩
  topKind none := nomatch none
  inside _ := by
    refine ⟨scope, tightest, rfl, ?_⟩
    simp only [placeUnder]
    split
    · rename_i promoted
      exact ⟨fun _ => .inr promoted, fun _ => rfl⟩
    · rename_i plain
      exact ⟨.inl, fun method => method.resolve_right plain⟩
  others changed := by
    simp only [placeUnder] at changed ⊢
    split at changed
    · exact absurd rfl changed
    · rename_i plain
      rw [if_neg plain]

/-- Sorted symbols are nested among all of them, given those that come earlier. -/
theorem nestAmong_nested (earlier : List Symbol) (same : (earlier ++ symbols).Perm all)
    (sorted : (earlier ++ symbols).Pairwise fun first second => precedes first second) :
    List.Forall₂ (Nested all) symbols (nestAmong earlier.reverse symbols) := by
  induction symbols generalizing earlier with
  | nil => exact .nil
  | cons symbol symbols ih =>
    unfold nestAmong
    constructor
    · cases found : scopeAmong? earlier.reverse symbol with
      | none =>
        exact nested_top fun scope member =>
          not_encloses_of_scopeAmong? sorted found (same.mem_iff.mpr member)
      | some scope =>
        have tightest := tightest_of_scopeAmong? sorted found
        exact nested_under ⟨same.mem_iff.mp tightest.listed, tightest.encloses,
          fun other member => tightest.tight other (same.mem_iff.mpr member)⟩
    · have moved : earlier ++ symbol :: symbols = (earlier ++ [symbol]) ++ symbols := by simp
      rw [moved] at same sorted
      have rest := ih _ same sorted
      rwa [List.reverse_append] at rest

/-- Symbols that cover text are listed in sorted order, each nested under a tightest scope
among them: without a parent exactly when no scope strictly contains it, else under the name
of one that does and has none strictly inside that does too, and a function is a method
exactly when that scope is class-like. -/
theorem resolveParents_tightest (symbols : List Symbol)
    (covers : ∀ symbol ∈ symbols, symbol.startByte < symbol.endByte) :
    ∃ sorted, sorted.Perm symbols ∧
      sorted.Pairwise (fun first second => precedes first second) ∧
      List.Forall₂ (Nested symbols) sorted (resolveParents symbols) := by
  have same := List.mergeSort_perm symbols precedes
  have sorted := mergeSort_sorted symbols
  refine ⟨symbols.mergeSort precedes, same, sorted, ?_⟩
  unfold resolveParents
  rw [nest_eq_nestAmong sorted fun symbol member => covers symbol (same.mem_iff.mp member)]
  exact nestAmong_nested [] same sorted

/-- A class of hundred bytes that holds a function with a function inside, listed inside out,
and a variable around the inner function. -/
def insideOut : List Symbol :=
  [{ name := "inner", kind := .function, startByte := 20, endByte := 40, startLine := 3,
     endLine := 4 },
   { name := "held", kind := .variable, startByte := 15, endByte := 50, startLine := 2,
     endLine := 5 },
   { name := "middle", kind := .function, startByte := 10, endByte := 60, startLine := 2,
     endLine := 6 },
   { name := "outer", kind := .class, startByte := 0, endByte := 100, startLine := 1,
     endLine := 9 }]

/-- The function in the class is a method, and the one in that function stays a function: the
variable between the two is no scope. -/
theorem resolveParents_tightest_insideOut :
    (∀ symbol ∈ insideOut, symbol.startByte < symbol.endByte) ∧
    (∃ sorted, sorted.Perm insideOut ∧
      sorted.Pairwise (fun first second => precedes first second) ∧
      List.Forall₂ (Nested insideOut) sorted (resolveParents insideOut)) ∧
    (resolveParents insideOut).map (fun symbol => (symbol.name, symbol.kind, symbol.parent)) =
      [("outer", .class, none), ("middle", .method, some "outer"),
       ("held", .variable, some "middle"), ("inner", .function, some "middle")] := by
  have covers : ∀ symbol ∈ insideOut, symbol.startByte < symbol.endByte := by decide
  refine ⟨covers, resolveParents_tightest insideOut covers, ?_⟩
  have apart : ∀ first ∈ insideOut, ∀ second ∈ insideOut, precedes first second = true →
      precedes second first = true → first = second := by decide
  have sorted : insideOut.mergeSort precedes = insideOut.reverse :=
    ((List.mergeSort_perm _ _).trans (List.reverse_perm _).symm).eq_of_pairwise
      (fun first second left right => apart first (List.mem_mergeSort.mp left) second
        (List.mem_reverse.mp right)) (mergeSort_sorted _) (by decide)
  unfold resolveParents
  rw [sorted]
  decide

end CodeAtlas.Outline
