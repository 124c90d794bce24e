import CodeAtlas.Outline.Nesting

/-!
# The stack of open scopes

A scope that has ended at the start of a symbol can contain no symbol from there on that
covers any text. Dropping ended scopes from the stack therefore loses no parent: every
symbol that covers text gets the parent that a search of all earlier symbols finds.
-/

namespace CodeAtlas.Outline

/-- A symbol comes before those that start later, and before shorter ones of its start. -/
theorem precedes_iff {first second : Symbol} :
    precedes first second = true ↔ first.startByte < second.startByte ∨
      first.startByte = second.startByte ∧ second.endByte ≤ first.endByte := by
  simp [precedes]

/-- The order of a listing is transitive. -/
theorem precedes_trans (first second third : Symbol) (left : precedes first second = true)
    (right : precedes second third = true) : precedes first third = true := by
  rw [precedes_iff] at left right ⊢
  omega

/-- Any two symbols can be ordered. -/
theorem precedes_total (first second : Symbol) :
    (precedes first second || precedes second first) = true := by
  rw [Bool.or_eq_true, precedes_iff, precedes_iff]
  omega

/-- What comes before a symbol does not start after it. -/
theorem startByte_le_of_precedes {first second : Symbol}
    (before : precedes first second = true) : first.startByte ≤ second.startByte := by
  rw [precedes_iff] at before
  omega

/-- The first of the given symbols that opens a scope around a symbol. -/
def scopeAmong? (earlier : List Symbol) (symbol : Symbol) : Option Symbol :=
  earlier.find? fun scope => scope.kind.canEnclose && scope.contains symbol

/-- Places symbols under their parents, given all earlier symbols, latest first. -/
def nestAmong (earlier : List Symbol) : List Symbol → List Symbol
  | [] => []
  | symbol :: symbols =>
    placeUnder (scopeAmong? earlier symbol) symbol :: nestAmong (symbol :: earlier) symbols

/-- Placing symbols in two parts. -/
theorem nestAmong_append (earlier first second : List Symbol) :
    nestAmong earlier (first ++ second) =
      nestAmong earlier first ++ nestAmong (first.reverse ++ earlier) second := by
  induction first generalizing earlier with
  | nil => rfl
  | cons symbol first ih =>
    simp only [List.cons_append, nestAmong, ih, List.reverse_cons, List.append_assoc,
      List.nil_append]

/-- Symbols that contain nothing of interest can be left out of a search. -/
theorem scopeAmong?_append {ended earlier : List Symbol} {symbol : Symbol}
    (outside : ∀ scope ∈ ended, scope.contains symbol = false) :
    scopeAmong? (ended ++ earlier) symbol = scopeAmong? earlier symbol := by
  have none : ended.find? (fun scope => scope.kind.canEnclose && scope.contains symbol) =
      .none := by
    rw [List.find?_eq_none]
    intro scope member
    simp [outside scope member]
  unfold scopeAmong?
  rw [List.find?_append, none, Option.none_or]

/-- A range that has ended contains no text from there on. -/
theorem contains_eq_false {scope symbol : Symbol} (ended : scope.endByte ≤ symbol.startByte)
    (covers : symbol.startByte < symbol.endByte) : scope.contains symbol = false := by
  have shorter : ¬symbol.endByte ≤ scope.endByte := by omega
  simp [Symbol.contains, shorter]

/-- From an offset on, a stack finds the same scopes as a search of all earlier symbols. -/
def Agree (stack earlier : List Symbol) (offset : Nat) : Prop :=
  ∀ symbol : Symbol, offset ≤ symbol.startByte → symbol.startByte < symbol.endByte →
    (stack.find? fun scope => scope.contains symbol) = scopeAmong? earlier symbol

/-- Dropping ended scopes changes nothing that is found from there on. -/
theorem find?_stillOpen (stack : List Symbol) {symbol later : Symbol}
    (after : symbol.startByte ≤ later.startByte) (covers : later.startByte < later.endByte) :
    ((stillOpen stack symbol).find? fun scope => scope.contains later) =
      stack.find? fun scope => scope.contains later := by
  induction stack with
  | nil => rfl
  | cons scope stack ih =>
    unfold stillOpen at ih ⊢
    rw [List.dropWhile_cons]
    split
    · rename_i ended
      have outside : scope.contains later = false :=
        contains_eq_false (Nat.le_trans (of_decide_eq_true ended) after) covers
      rw [ih, List.find?_cons, outside]
    · rfl

/-- One step of the stack keeps it in agreement with the search. -/
theorem Agree.step {stack earlier : List Symbol} {offset : Nat} {symbol : Symbol}
    (agree : Agree stack earlier offset) (after : offset ≤ symbol.startByte) :
    Agree (if symbol.kind.canEnclose then symbol :: stillOpen stack symbol
      else stillOpen stack symbol) (symbol :: earlier) symbol.startByte := by
  intro later follows covers
  have before : ((stillOpen stack symbol).find? fun scope => scope.contains later) =
      scopeAmong? earlier later := by
    rw [find?_stillOpen stack follows covers]
    exact agree later (Nat.le_trans after follows) covers
  unfold scopeAmong? at before ⊢
  cases opens : symbol.kind.canEnclose with
  | false =>
    simp only [opens, List.find?_cons, Bool.false_and]
    exact before
  | true =>
    simp only [if_true, opens, List.find?_cons, Bool.true_and]
    rw [before]

/-- Symbols sorted by their start, of which those that cover text are placed by the stack
as by a search of all earlier symbols. -/
theorem nest_getElem? {stack earlier symbols : List Symbol} {offset : Nat}
    (agree : Agree stack earlier offset)
    (sorted : symbols.Pairwise fun first second => first.startByte ≤ second.startByte)
    (after : ∀ symbol ∈ symbols, offset ≤ symbol.startByte) (index : Nat)
    (covers : ∀ symbol, symbols[index]? = some symbol → symbol.startByte < symbol.endByte) :
    (nest stack symbols)[index]? = (nestAmong earlier symbols)[index]? := by
  induction symbols generalizing stack earlier offset index with
  | nil => rfl
  | cons symbol symbols ih =>
    obtain ⟨first, others⟩ := List.pairwise_cons.mp sorted
    have here : offset ≤ symbol.startByte := after symbol List.mem_cons_self
    cases index with
    | zero =>
      have text := covers symbol rfl
      simp only [nest, nestAmong, List.getElem?_cons_zero]
      rw [find?_stillOpen stack (Nat.le_refl _) text, agree symbol here text]
    | succ index => exact ih (agree.step here) others first index covers

/-- Of symbols in order, those that cover text are placed by the stack as by a search of all
earlier ones, whatever the others are. -/
theorem nest_getElem?_of_sorted {symbols : List Symbol}
    (sorted : symbols.Pairwise fun first second => precedes first second) (index : Nat)
    (covers : ∀ symbol, symbols[index]? = some symbol → symbol.startByte < symbol.endByte) :
    (nest [] symbols)[index]? = (nestAmong [] symbols)[index]? := by
  have agree : Agree [] [] 0 := fun _ _ _ => rfl
  exact nest_getElem? agree (sorted.imp startByte_le_of_precedes) (fun _ _ => Nat.zero_le _)
    index covers

/-- Sorted symbols that all cover text are placed by the stack as by a search of all earlier
ones. -/
theorem nest_eq_nestAmong {symbols : List Symbol}
    (sorted : symbols.Pairwise fun first second => precedes first second)
    (covers : ∀ symbol ∈ symbols, symbol.startByte < symbol.endByte) :
    nest [] symbols = nestAmong [] symbols := by
  apply List.ext_getElem?
  intro index
  exact nest_getElem?_of_sorted sorted index fun symbol found =>
    covers symbol (List.mem_of_getElem? found)

/-- A list of symbols that is sorted as it stands keeps its order when parents are given. -/
theorem resolveParents_eq_nestAmong {symbols : List Symbol}
    (sorted : symbols.Pairwise fun first second => precedes first second)
    (covers : ∀ symbol ∈ symbols, symbol.startByte < symbol.endByte) :
    resolveParents symbols = nestAmong [] symbols := by
  unfold resolveParents
  rw [List.mergeSort_of_pairwise sorted]
  exact nest_eq_nestAmong sorted covers

end CodeAtlas.Outline
