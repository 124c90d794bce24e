import CodeAtlas.Proofs.Engine.DocumentOrder
import CodeAtlas.Proofs.Positions
import CodeAtlas.Proofs.Text.Spans

/-!
# Lines around matches

The lines before a match, those of the match and those after it are one span of the text,
clipped at both ends. A machine finds the lines around a match with words of 64 bits, with sums
and differences that stop at the largest and the smallest word, and with slices that have to
lie within the lines. It never cuts outside them and finds what is found with numbers of any
size, whatever the width is, and even if the lines it starts from are not those of the text.
-/

namespace CodeAtlas

/-! ## Windows as spans -/

section

variable {lines : List String} {first last width : Nat}

/-- A span begins with the text. -/
theorem lineSpan_max (lines : List String) (first last : Nat) :
    lineSpan lines (max 1 first) last = lineSpan lines first last := by
  unfold lineSpan
  congr 1
  omega

/-- The lines before a range are a span. -/
theorem contextWindow_fst (lines : List String) (first last width : Nat) :
    (contextWindow lines first last width).1 =
      lineSpan lines (min (first - 1) lines.length + 1 - width)
        (min (first - 1) lines.length) := by
  change (lines.take (min (first - 1) lines.length)).drop _ = _
  unfold lineSpan
  congr 1
  omega

/-- The lines after a range are a span. -/
theorem contextWindow_snd (lines : List String) (first last width : Nat) :
    (contextWindow lines first last width).2 =
      lineSpan lines (min last lines.length + 1) (min last lines.length + width) := by
  change (lines.drop (min last lines.length)).take width = _
  unfold lineSpan
  rw [List.drop_take, Nat.add_sub_cancel, Nat.add_sub_cancel_left]

/-- The number of lines before a range. -/
theorem length_contextWindow_fst (lines : List String) (first last width : Nat) :
    (contextWindow lines first last width).1.length =
      min width (min (first - 1) lines.length) := by
  rw [contextWindow_fst, length_lineSpan]
  omega

/-- The number of lines after a range. -/
theorem length_contextWindow_snd (lines : List String) (first last width : Nat) :
    (contextWindow lines first last width).2.length =
      min width (lines.length - min last lines.length) := by
  rw [contextWindow_snd, length_lineSpan]
  omega

/-- Around a range that begins within the text, the lines before it, those of the range and
those after it are one span. -/
theorem contextWindow_around (starts : 1 ≤ first) (ordered : first ≤ last)
    (present : first ≤ lines.length) :
    (contextWindow lines first last width).1 ++
        lineSpan lines first (min last lines.length) ++
        (contextWindow lines first last width).2 =
      lineSpan lines (max 1 (first - width))
        (min lines.length (min last lines.length + width)) := by
  have before : (contextWindow lines first last width).1 =
      lineSpan lines (first - width) (first - 1) := by
    rw [contextWindow_fst, Nat.min_eq_left (by omega), Nat.sub_add_cancel starts]
  have joined := lineSpan_append lines (by omega : first - width ≤ first - 1 + 1)
    (by omega : first - 1 ≤ min last lines.length)
  rw [Nat.sub_add_cancel starts] at joined
  rw [before, contextWindow_snd, joined,
    lineSpan_append lines (by omega) (Nat.le_add_right _ width), lineSpan_max,
    Nat.min_comm lines.length, lineSpan_min]

end

/-! ## Windows in machine words -/

namespace Words

/-- A difference of words that stops at zero. -/
def subSaturating (a b : UInt64) : UInt64 := if b ≤ a then a - b else 0

/-- The largest word. -/
def largest : UInt64 := .ofNat (UInt64.size - 1)

/-- A sum of words that stops at the largest word when it would wrap around. -/
def addSaturating (a b : UInt64) : UInt64 := if a + b < a then largest else a + b

/-- The items from `start` up to but not including `stop`; none when the slice would lie
outside them. -/
def slice? {α : Type} (items : List α) (start stop : Nat) : Option (List α) :=
  if start ≤ stop ∧ stop ≤ items.length then some ((items.take stop).drop start) else none

/-- Up to `width` lines before and after the lines `first` to `last`, found with words; none
when a slice would lie outside the lines. -/
def contextWindow? (lines : List String) (first last width : UInt64) :
    Option (List String × List String) := do
  let total := UInt64.ofNat lines.length
  let start := min (subSaturating first 1) total
  let stop := min last total
  let before ← slice? lines (subSaturating start width).toNat start.toNat
  let after ← slice? lines stop.toNat (min (addSaturating stop width) total).toNat
  return (before, after)

/-- A difference that stops at zero is one of natural numbers. -/
@[simp]
theorem toNat_subSaturating (a b : UInt64) :
    (subSaturating a b).toNat = a.toNat - b.toNat := by
  unfold subSaturating
  split
  · rename_i ordered
    exact UInt64.toNat_sub_of_le a b ordered
  · rename_i less
    rw [UInt64.le_iff_toNat_le] at less
    rw [Nat.sub_eq_zero_of_le (by omega)]
    rfl

/-- A sum that does not wrap around is one of natural numbers, clipped at the largest word. -/
@[simp]
theorem toNat_addSaturating (a b : UInt64) :
    (addSaturating a b).toNat = min (a.toNat + b.toNat) (UInt64.size - 1) := by
  have left := a.toNat_lt
  have right := b.toNat_lt
  unfold addSaturating UInt64.size
  split
  · rename_i wraps
    rw [UInt64.lt_iff_toNat_lt, UInt64.toNat_add] at wraps
    have last : largest.toNat = 18446744073709551615 := by decide
    omega
  · rename_i fits
    rw [UInt64.lt_iff_toNat_lt, UInt64.toNat_add] at fits
    rw [UInt64.toNat_add]
    omega

/-- What lies within the items can be sliced. -/
theorem slice?_of_le {α : Type} {items : List α} {start stop : Nat} (ordered : start ≤ stop)
    (inside : stop ≤ items.length) :
    slice? items start stop = some ((items.take stop).drop start) :=
  if_pos ⟨ordered, inside⟩

/-- Words find the lines around a range, whatever range it is and however wide. -/
theorem contextWindow?_eq {lines : List String} (counted : lines.length < UInt64.size)
    (first last width : UInt64) :
    contextWindow? lines first last width =
      some (contextWindow lines first.toNat last.toNat width.toNat) := by
  have total : (UInt64.ofNat lines.length).toNat = lines.length :=
    UInt64.toNat_ofNat_of_lt' counted
  have one : (1 : UInt64).toNat = 1 := rfl
  unfold contextWindow?
  simp only [UInt64.toNat_min, toNat_subSaturating, toNat_addSaturating, total, one]
  rw [slice?_of_le (by omega) (by omega), slice?_of_le (by omega) (by omega)]
  -- The sum is clipped to the lines, of which there are fewer than words.
  have after : (lines.take (min (min (min last.toNat lines.length + width.toNat) (UInt64.size - 1))
      lines.length)).drop (min last.toNat lines.length) =
        (lines.drop (min last.toNat lines.length)).take width.toNat := by
    rw [List.drop_take, List.take_eq_take_iff]
    simp only [List.length_drop]
    omega
  rw [after]
  rfl

end Words

/-! ## Rows and lines of a text -/

namespace Chars

/-- A row is not larger than the text. -/
theorem row_le_byteSize (offset : Nat) (text : List Char) : row offset text ≤ byteSize text := by
  induction text generalizing offset with
  | nil => cases offset <;> exact Nat.le_refl 0
  | cons c text ih =>
    cases offset with
    | zero => exact Nat.zero_le _
    | succ offset =>
      have positive := c.utf8Size_pos
      have later := ih (offset + 1 - c.utf8Size)
      rw [row, byteSize_cons]
      split <;> omega

/-- A text has no more lines than bytes. -/
theorem length_lines_le_byteSize (text : List Char) : (lines text).length ≤ byteSize text := by
  induction text with
  | nil => exact Nat.le_refl 0
  | cons c rest ih =>
    have positive := c.utf8Size_pos
    rw [byteSize_cons]
    obtain ⟨line, others, cut, fewer⟩ := exists_lines_cons c rest
    rw [cut, List.length_cons]
    omega

end Chars

/-! ## Hits -/

/-- Whether a hit is reported for the lines of a node. -/
structure Hit.Spans (hit : Hit) (text : String) (node : Node) : Prop where
  startLine : hit.startLine = node.startRow text + 1
  endLine : hit.endLine = node.stopRow text + 1

section

variable {hit : Hit} {text : String} {node : Node}

/-- Lines are counted from one. -/
theorem Hit.Spans.positive (spans : hit.Spans text node) : 1 ≤ hit.startLine := by
  rw [spans.startLine]
  exact Nat.le_add_left 1 _

/-- The lines of a node that ends after it begins do not go back. -/
theorem Hit.Spans.ordered (spans : hit.Spans text node) (ends : node.start ≤ node.stop) :
    hit.startLine ≤ hit.endLine := by
  rw [spans.startLine, spans.endLine]
  exact Nat.succ_le_succ (Chars.row_mono text.toList ends)

/-- In a text that fits in the memory of a machine, the lines of a node are words. -/
theorem Hit.Spans.exists_words (spans : hit.Spans text node)
    (stored : Text.byteSize text + 1 < UInt64.size) :
    ∃ first last : UInt64, first.toNat = hit.startLine ∧ last.toNat = hit.endLine := by
  have start := Chars.row_le_byteSize node.start text.toList
  have stop := Chars.row_le_byteSize node.stop text.toList
  have size : Chars.byteSize text.toList + 1 < UInt64.size := stored
  have first : hit.startLine < UInt64.size := by
    rw [spans.startLine, Node.startRow, Text.row]
    omega
  have last : hit.endLine < UInt64.size := by
    rw [spans.endLine, Node.stopRow, Text.row]
    omega
  exact ⟨.ofNat hit.startLine, .ofNat hit.endLine, UInt64.toNat_ofNat_of_lt' first,
    UInt64.toNat_ofNat_of_lt' last⟩

end

namespace Engine

variable {engine : Engine} {parsed : ParsedTree} {identity : String} {unit : SourceUnit}
  {query : Query} {cap : Nat} {caches after : Caches}

/-- Calls are reported for the lines of nodes. -/
theorem findCalls_spans {hits : List Hit}
    (done : (engine.findCalls parsed unit query cap).runFrom caches = (.ok hits, after)) :
    ∀ hit ∈ hits, ∃ node ∈ parsed.tree.preorder, hit.Spans unit.text node := by
  intro hit listed
  obtain ⟨node, member, rfl⟩ := findCalls_eq_ok done hit listed
  exact ⟨node, member, rfl, rfl⟩

/-- Definitions are reported for the lines of nodes. -/
theorem findDefinitions_spans {hits : List Hit}
    (done : engine.findDefinitions parsed unit query cap = .ok hits) :
    ∀ hit ∈ hits, ∃ node ∈ parsed.tree.preorder, hit.Spans unit.text node := by
  unfold findDefinitions Analyzer.outline at done
  cases required : engine.analyzer.registry.require unit.language with
  | error error =>
    rw [required] at done
    cases done
  | ok =>
    rw [required] at done
    cases done
    intro hit listed
    obtain ⟨placed, found, rfl⟩ := List.mem_map.mp listed
    have member := (List.mem_filter.mp (List.mem_of_mem_take found)).1
    obtain ⟨place, inside, symbol, parent?, described, rfl⟩ := Outline.mem_symbols member
    obtain ⟨_, written⟩ := Outline.describe_eq_some described
    refine ⟨unit.language.grammar.extent place,
      (unit.language.extentsAround parsed.tree place inside).1, ?_, ?_⟩
    · exact (Outline.placeUnder_startLine ..).trans written.startLine
    · exact (Outline.placeUnder_endLine ..).trans written.endLine

/-- A match of a search is made of a hit that is reported for the lines of a node of the tree. -/
theorem mem_searchUnit {found : List Match}
    (done : (engine.searchUnit identity unit query cap).runFrom caches = (.ok found, after)) :
    ∀ result ∈ found, ∃ (parsed : ParsedTree) (between : Caches) (hit : Hit),
      (engine.analyzer.parse identity unit).runFrom caches = (.ok parsed, between) ∧
      result = hit.toMatch identity unit query ∧
      ∃ node ∈ parsed.tree.preorder, hit.Spans unit.text node := by
  unfold searchUnit at done
  split at done
  · cases done
    exact nofun
  obtain ⟨parsed, between, parses, done⟩ := Analysis.runFrom_bind_eq_ok done
  have hits : ∃ hits : List Hit, found = hits.map (·.toMatch identity unit query) ∧
      ∀ hit ∈ hits, ∃ node ∈ parsed.tree.preorder, hit.Spans unit.text node := by
    cases kind : query.kind with
    | functionCalls =>
      rw [kind] at done
      obtain ⟨hits, _, listed, same⟩ := Analysis.runFrom_bind_eq_ok done
      cases same
      exact ⟨hits, rfl, findCalls_spans listed⟩
    | symbolDefinitions =>
      rw [kind] at done
      obtain ⟨hits, _, listed, same⟩ := Analysis.runFrom_bind_eq_ok done
      cases same
      exact ⟨hits, rfl, findDefinitions_spans (Prod.mk.inj listed).1⟩
  obtain ⟨hits, rfl, spans⟩ := hits
  intro result member
  obtain ⟨hit, present, rfl⟩ := List.mem_map.mp member
  exact ⟨parsed, between, hit, parses, rfl, spans hit present⟩

end Engine

/-! ## Matches in context -/

/-- Whether a match comes with the lines around it, as many as there are up to a width. -/
structure Match.InContext (result : Match) (lines : List String) (width : Nat) : Prop where
  before : result.contextBefore.length = min width (result.startLine - 1)
  after : result.contextAfter.length =
    min width (lines.length - min result.endLine lines.length)
  /-- Together with the lines of the match they are one span of the text. -/
  around : result.startLine ≤ result.endLine →
    result.contextBefore ++
        lineSpan lines result.startLine (min result.endLine lines.length) ++
        result.contextAfter =
      lineSpan lines (max 1 (result.startLine - width))
        (min lines.length (min result.endLine lines.length + width))

section

variable {hit : Hit} {identity : String} {unit : SourceUnit} {query : Query}

/-- The match of a hit has the lines around it when the query asks for them. -/
theorem Hit.toMatch_window (hit : Hit) (identity : String) (unit : SourceUnit)
    (asked : query.includeContext = true) :
    ((hit.toMatch identity unit query).contextBefore,
        (hit.toMatch identity unit query).contextAfter) =
      contextWindow (Text.lines unit.text) hit.startLine hit.endLine query.contextLines := by
  unfold toMatch
  rw [asked]
  rfl

/-- A match that begins within the text comes with the lines around it. -/
theorem Hit.toMatch_inContext (asked : query.includeContext = true) (starts : 1 ≤ hit.startLine)
    (present : hit.startLine ≤ (Text.lines unit.text).length) :
    (hit.toMatch identity unit query).InContext (Text.lines unit.text) query.contextLines := by
  have window := hit.toMatch_window identity unit asked
  have before := congrArg Prod.fst window
  have after := congrArg Prod.snd window
  simp only at before after
  have clipped : min (hit.startLine - 1) (Text.lines unit.text).length = hit.startLine - 1 :=
    Nat.min_eq_left (by omega)
  constructor
  · rw [before, length_contextWindow_fst, clipped]
    rfl
  · rw [after, length_contextWindow_snd]
    rfl
  · intro ordered
    rw [before, after]
    exact contextWindow_around starts ordered present

end

namespace Engine

/-- The matches of a search that asks for context come with the lines around them. A match that
begins within the text has as many lines before and after it as there are, up to the width, and
with the lines of the match they are one span of the text, clipped at both ends. The lines of a
match are counted from one and do not go back where no node of the tree ends before it begins.
In a text that fits in the memory of a machine they are words, and words find the same lines
around them without a slice outside the text. Words do so for whatever lines they are given, and
never find more lines than the width on a side. -/
theorem searchUnit_in_context (engine : Engine) (identity : String) (unit : SourceUnit)
    (query : Query) (cap : Nat) (caches after : Caches) (found : List Match)
    (asked : query.includeContext = true)
    (done : (engine.searchUnit identity unit query cap).runFrom caches = (.ok found, after)) :
    (∀ result ∈ found, result.startLine ≤ (Text.lines unit.text).length →
      result.InContext (Text.lines unit.text) query.contextLines) ∧
    (∀ result ∈ found, 1 ≤ result.startLine) ∧
    (∀ parsed between,
      (engine.analyzer.parse identity unit).runFrom caches = (.ok parsed, between) →
      (∀ node ∈ parsed.tree.preorder, node.start ≤ node.stop) →
      ∀ result ∈ found, result.startLine ≤ result.endLine) ∧
    (∀ width : UInt64, width.toNat = query.contextLines →
      Text.byteSize unit.text + 1 < UInt64.size → ∀ result ∈ found, ∃ first last : UInt64,
        first.toNat = result.startLine ∧ last.toNat = result.endLine ∧
        Words.contextWindow? (Text.lines unit.text) first last width =
          some (result.contextBefore, result.contextAfter)) ∧
    ∀ (lines : List String) (first last width : UInt64), lines.length < UInt64.size →
      ∃ before later, Words.contextWindow? lines first last width = some (before, later) ∧
        before.length ≤ width.toNat ∧ later.length ≤ width.toNat := by
  refine ⟨?_, ?_, ?_, ?_, ?_⟩
  · intro result member present
    obtain ⟨_, _, hit, _, rfl, node, _, spans⟩ := mem_searchUnit done result member
    exact Hit.toMatch_inContext asked spans.positive present
  · intro result member
    obtain ⟨_, _, hit, _, rfl, node, _, spans⟩ := mem_searchUnit done result member
    exact spans.positive
  · intro parsed between parses ends result member
    obtain ⟨_, _, hit, again, rfl, node, inside, spans⟩ := mem_searchUnit done result member
    -- There is one tree that the text is parsed to.
    obtain ⟨same, -⟩ := Prod.mk.inj (parses.symm.trans again)
    cases same
    exact spans.ordered (ends node inside)
  · intro width same stored result member
    obtain ⟨_, _, hit, _, rfl, node, _, spans⟩ := mem_searchUnit done result member
    obtain ⟨first, last, start, stop⟩ := spans.exists_words stored
    have counted : (Text.lines unit.text).length < UInt64.size := by
      have fewer := Chars.length_lines_le_byteSize unit.text.toList
      have size : Chars.byteSize unit.text.toList + 1 < UInt64.size := stored
      rw [Text.lines, List.length_map]
      omega
    refine ⟨first, last, start, stop, ?_⟩
    rw [Words.contextWindow?_eq counted, start, stop, same, hit.toMatch_window identity unit asked]
  · intro lines first last width counted
    refine ⟨_, _, Words.contextWindow?_eq counted first last width, ?_, ?_⟩
    · exact (length_contextWindow_fst lines _ last.toNat _).trans_le (Nat.min_le_left _ _)
    · exact (length_contextWindow_snd lines first.toNat _ _).trans_le (Nat.min_le_left _ _)

/-- A Python text of three lines, two of which are calls. -/
def threeLines : SourceUnit := ⟨.python, "a\nf()\ng()\n"⟩

/-- The tree of that text. -/
def threeLinesTree : Node :=
  .mk "module" true "" 0 10
    [.mk "expression_statement" true "" 0 1 [.mk "identifier" true "" 0 1 []],
     .mk "expression_statement" true "" 2 5
      [.mk "call" true "" 2 5
        [.mk "identifier" true "function" 2 3 [], .mk "argument_list" true "arguments" 3 5 []]],
     .mk "expression_statement" true "" 6 9
      [.mk "call" true "" 6 9
        [.mk "identifier" true "function" 6 7 [], .mk "argument_list" true "arguments" 7 9 []]]]

/-- With the largest width there is, the calls come with all other lines. -/
theorem searchUnit_in_context_widest :
    let query : Query :=
      { kind := .functionCalls, target := "()", scope := "", includeContext := true,
        contextLines := Words.largest.toNat }
    ∃ found after,
      ((ofTree threeLinesTree).searchUnit inlineIdentity threeLines query 5).runFrom
        (ofTree threeLinesTree).freshCaches = (.ok found, after) ∧
      found.map (fun result => (result.startLine, result.contextBefore, result.contextAfter)) =
        [(2, ["a"], ["g()"]), (3, ["a", "f()"], [])] ∧
      (∀ result ∈ found, result.startLine ≤ 3 ∧
        result.InContext (Text.lines threeLines.text) query.contextLines) ∧
      ∀ result ∈ found, ∃ first last : UInt64,
        first.toNat = result.startLine ∧ last.toNat = result.endLine ∧
        Words.contextWindow? (Text.lines threeLines.text) first last
          Words.largest = some (result.contextBefore, result.contextAfter) := by
  intro query
  have shown : (((ofTree threeLinesTree).searchUnit inlineIdentity threeLines query 5).runFrom
      (ofTree threeLinesTree).freshCaches).1.toOption.map (fun found =>
        found.map fun result => (result.startLine, result.contextBefore, result.contextAfter)) =
      some [(2, ["a"], ["g()"]), (3, ["a", "f()"], [])] := by decide +kernel
  cases run : ((ofTree threeLinesTree).searchUnit inlineIdentity threeLines query 5).runFrom
      (ofTree threeLinesTree).freshCaches with
  | mk outcome after =>
    rw [run] at shown
    cases outcome with
    | error error => cases shown
    | ok found =>
      have views : found.map (fun result =>
          (result.startLine, result.contextBefore, result.contextAfter)) =
            [(2, ["a"], ["g()"]), (3, ["a", "f()"], [])] := Option.some.inj shown
      obtain ⟨inContext, _, _, words, _⟩ := searchUnit_in_context (ofTree threeLinesTree)
        inlineIdentity threeLines query 5 _ after found rfl run
      have total : (Text.lines threeLines.text).length = 3 := by decide +kernel
      have inside : ∀ result ∈ found, result.startLine ≤ 3 := by
        have starts : ∀ view ∈ [(2, ["a"], ["g()"]), (3, ["a", "f()"], [])], view.1 ≤ 3 := by decide
        rw [← views] at starts
        exact List.forall_mem_map.mp starts
      refine ⟨found, after, rfl, views, fun result member => ?_, fun result member => ?_⟩
      · exact ⟨inside result member,
          inContext result member (by rw [total]; exact inside result member)⟩
      · exact words Words.largest rfl (by decide) result member

end Engine

end CodeAtlas
