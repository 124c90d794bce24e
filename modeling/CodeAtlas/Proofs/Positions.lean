import CodeAtlas.Proofs.Engine.Complete
import CodeAtlas.Proofs.Outline.Members
import CodeAtlas.Proofs.Outline.Pieces
import CodeAtlas.Proofs.Text.Lines
import CodeAtlas.Proofs.Text.Utf8
import CodeAtlas.Server.Outcome

/-!
# Reported lines

The lines that are reported for a call or a symbol are counted by the line feeds before a byte
offset, and lines are read by cutting the text. Both agree on every range that ends in a line:
the reported lines can be read, to the last of them, and hold what the range covers. Only the
carriage returns of line ends are lost on the way.
-/

namespace CodeAtlas

open Chars (unifyEnds EndsInLine byteSize)

/-- Whether a range of a text covers something and its last byte is no part of a line end. -/
structure EndsInText (source : String) (range : Nat × Nat) : Prop where
  covers : range.1 < range.2
  inside : range.2 ≤ Text.byteSize source
  noReturn : (Text.utf8 source)[range.2 - 1]? ≠ some 13
  noFeed : (Text.utf8 source)[range.2 - 1]? ≠ some 10

/-- Whether a range ends in a line is decidable. -/
instance (source : String) (range : Nat × Nat) : Decidable (EndsInText source range) :=
  decidable_of_iff (range.1 < range.2 ∧ range.2 ≤ Text.byteSize source ∧
      (Text.utf8 source)[range.2 - 1]? ≠ some 13 ∧ (Text.utf8 source)[range.2 - 1]? ≠ some 10)
    ⟨fun ⟨covers, inside, noReturn, noFeed⟩ => ⟨covers, inside, noReturn, noFeed⟩,
      fun ends => ⟨ends.covers, ends.inside, ends.noReturn, ends.noFeed⟩⟩

/-- Whether a range of lines can be read to its end and holds a text, in which a carriage
return and a line feed are read as a line feed. -/
def LinesHold (source : String) (first last : Nat) (text : String) : Prop :=
  ∃ code, lineRange source first last = .ok (code, last) ∧
    unifyEnds text.toList <:+: code.toList

variable {source : String}

/-- Lines of a text can be read to the last one that is asked for. -/
theorem lineRange_eq_ok {first last : Nat} (ordered : first ≤ last)
    (present : last < (Chars.lines source.toList).length) :
    lineRange source (first + 1) (last + 1) =
      .ok (String.ofList (Chars.join ['\n']
        (((Chars.lines source.toList).take (last + 1)).drop first)), last + 1) := by
  have total : (Text.lines source).length = (Chars.lines source.toList).length :=
    List.length_map _
  unfold lineRange
  rw [if_neg (by omega), if_neg (by omega)]
  simp only
  rw [if_neg (by omega), Nat.min_eq_left (by omega)]
  unfold Text.lines Text.join
  rw [← List.map_take, Nat.add_sub_cancel, ← List.map_drop, List.map_map]
  have same : String.toList ∘ String.ofList = id := funext fun _ => String.toList_ofList
  rw [same, List.map_id]
  rfl

/-- The last byte of such a range is one of a character that is no part of a line end, and the
row of its end counts the line feeds up to this character. -/
theorem EndsInText.exists_parts {range : Nat × Nat} (ends : EndsInText source range) :
    ∃ before c after, source.toList = before ++ c :: after ∧ byteSize before < range.2 ∧
      range.2 ≤ byteSize (before ++ [c]) ∧ (c ≠ '\r' ∧ c ≠ '\n') ∧
      Text.row range.2 source = (before ++ [c]).count '\n' := by
  obtain ⟨start, stop⟩ := range
  have covers : start < stop := ends.covers
  have inside : stop ≤ byteSize source.toList := ends.inside
  have present : stop - 1 < byteSize source.toList := by omega
  obtain ⟨before, c, after, parts, starts, stops, row⟩ := Chars.exists_char_at present
  have size : byteSize (before ++ [c]) = byteSize before + c.utf8Size := by
    rw [Chars.byteSize_append, Chars.byteSize_cons, Chars.byteSize_nil, Nat.add_zero]
  -- A character of one byte is the last byte of the range.
  have other {byte : UInt8} (single : String.utf8EncodeChar c = [byte]) :
      (Text.utf8 source)[stop - 1]? = some byte := by
    have one : c.utf8Size = 1 := by rw [← String.length_utf8EncodeChar, single]; rfl
    have here : stop - 1 = byteSize before := by omega
    unfold Text.utf8
    rw [parts, here]
    exact Chars.getElem?_flatMap_utf8EncodeChar single before after
  refine ⟨before, c, after, parts, by omega, by omega, ⟨?_, ?_⟩, ?_⟩
  · rintro rfl
    exact ends.noReturn (other (by decide))
  · rintro rfl
    exact ends.noFeed (other (by decide))
  · have last : stop - 1 + 1 = stop := by omega
    rwa [last] at row

/-- A piece of a text up to the end of such a range ends in a line. -/
theorem EndsInText.endsInLine {range : Nat × Nat} (ends : EndsInText source range)
    {front piece back : List Char} (parts : source.toList = front ++ piece ++ back)
    (stop : byteSize (front ++ piece) = range.2) (visible : piece ≠ []) : EndsInLine piece := by
  obtain ⟨before, c, after, cut, starts, stops, inLine, _⟩ := ends.exists_parts
  have first : before <+: source.toList := ⟨c :: after, cut.symm⟩
  have through : before ++ [c] <+: source.toList := ⟨after, by rw [cut, List.append_assoc]; rfl⟩
  have whole : front ++ piece <+: source.toList := ⟨back, parts.symm⟩
  obtain ⟨rest, same⟩ : before <+: front ++ piece :=
    Chars.initial_of_byteSize_le first whole (by omega)
  have last : rest <+: [c] := by
    apply (List.prefix_append_right_inj before).mp
    rw [same]
    exact Chars.initial_of_byteSize_le whole through (by omega)
  -- The piece ends with the character in which the range ends.
  have ending : (front ++ piece).getLast? = some c := by
    cases rest with
    | nil =>
      rw [← same, List.append_nil] at stop
      omega
    | cons d rest =>
      obtain ⟨rfl, none⟩ := List.cons_prefix_cons.mp last
      rw [← same, List.prefix_nil.mp none, List.getLast?_concat]
  rw [List.getLast?_append_of_ne_nil _ visible] at ending
  intro d found
  cases ending.symm.trans found
  exact inLine

/-- The row that such a range ends on is that of a line. -/
theorem EndsInText.row_lt {range : Nat × Nat} (ends : EndsInText source range) :
    Text.row range.2 source < (Chars.lines source.toList).length := by
  obtain ⟨before, c, after, parts, _, _, inLine, row⟩ := ends.exists_parts
  have single : EndsInLine [c] := by
    intro d found
    cases found
    exact inLine
  have present := (Chars.infix_join_lines (List.cons_ne_nil c []) single before after).1
  rwa [← row, List.append_assoc, List.singleton_append, ← parts] at present

/-- The lines from the row that a range begins on to the row that it ends on hold it. -/
theorem EndsInText.linesHold {range : Nat × Nat} (ends : EndsInText source range) :
    LinesHold source (Text.row range.1 source + 1) (Text.row range.2 source + 1)
      ((Text.slice? range.1 range.2 source).getD "") := by
  have ordered : Text.row range.1 source ≤ Text.row range.2 source :=
    Chars.row_mono _ (Nat.le_of_lt ends.covers)
  refine ⟨_, lineRange_eq_ok ordered ends.row_lt, ?_⟩
  unfold Text.slice?
  cases sliced : Chars.slice? range.1 range.2 source.toList with
  | none =>
    -- Where the range cuts a character it covers no text.
    exact List.nil_infix
  | some piece =>
    obtain ⟨front, back, parts, start, stop⟩ := Chars.slice?_eq_some.mp sliced
    have visible : piece ≠ [] := by
      rintro rfl
      have covers := ends.covers
      rw [List.append_nil] at stop
      omega
    have first : Text.row range.1 source = front.count '\n' := by
      rw [Text.row, parts, ← start, List.append_assoc, Chars.row_byteSize]
    have last : Text.row range.2 source = (front ++ piece).count '\n' := by
      rw [Text.row, parts, ← stop, Chars.row_byteSize]
    have inLine : EndsInLine piece := ends.endsInLine parts stop visible
    have shown := (Chars.infix_join_lines visible inLine front back).2
    rw [String.toList_ofList, first, last, parts]
    simpa using shown

/-! ## Calls and symbols -/

/-- A search for calls finds nodes of the tree. -/
theorem Engine.findCalls_eq_ok {engine : Engine} {parsed : ParsedTree} {unit : SourceUnit}
    {query : Query} {cap : Nat} {caches after : Caches} {hits : List Hit}
    (done : (engine.findCalls parsed unit query cap).runFrom caches = (.ok hits, after)) :
    ∀ hit ∈ hits, ∃ node ∈ parsed.tree.preorder, hit = callHit unit.text node := by
  unfold findCalls at done
  obtain ⟨compiled, between, _, rest⟩ := Analysis.runFrom_bind_eq_ok done
  cases compiled with
  | none =>
    cases rest
    exact nofun
  | some pattern =>
    simp only at rest
    split at rest
    · cases rest
    · cases rest
      intro hit listed
      have room : ([] : List Hit).length < max cap 1 := Nat.le_max_right cap 1
      rw [scanCalls_of_room room, List.nil_append] at listed
      obtain ⟨node, found, rfl⟩ := List.mem_map.mp listed
      have call := (List.mem_filter.mp (List.mem_of_mem_take found)).1
      exact ⟨node, (List.mem_filter.mp call).1, rfl⟩

/-- The lines that are reported for a call, and those that are reported for a symbol, can be
read to the last one, and what is read holds the text of the call or of the symbol, with the
carriage returns of its line ends dropped. It is assumed that the call or symbol covers
something and does not end with a line end. -/
theorem reported_lines_hold (unit : SourceUnit) :
    (∀ node : Node, EndsInText unit.text node.range →
      LinesHold unit.text (callHit unit.text node).startLine (callHit unit.text node).endLine
        (callHit unit.text node).text) ∧
    (∀ (engine : Engine) parsed query cap caches hits after,
      (engine.findCalls parsed unit query cap).runFrom caches = (.ok hits, after) →
        ∀ hit ∈ hits, ∃ node ∈ parsed.tree.preorder, hit = callHit unit.text node) ∧
    ∀ tree, ∀ symbol ∈ Outline.symbols unit.language.grammar unit.text tree,
      EndsInText unit.text symbol.range →
        LinesHold unit.text symbol.startLine symbol.endLine (unit.codeOf symbol) := by
  refine ⟨fun node ends => ends.linesHold, ?_, ?_⟩
  · intro engine parsed query cap caches hits after done
    exact Engine.findCalls_eq_ok done
  · intro tree placed listed ends
    obtain ⟨place, _, symbol, parent?, described, rfl⟩ := Outline.mem_symbols listed
    obtain ⟨_, found⟩ := Outline.describe_eq_some described
    rw [Outline.placeUnder_startLine, Outline.placeUnder_endLine, found.startLine, found.endLine,
      SourceUnit.codeOf, Outline.placeUnder_startByte, Outline.placeUnder_endByte]
    rw [Outline.placeUnder_range] at ends
    have hold := ends.linesHold
    rw [found.range] at hold
    obtain ⟨start, stop⟩ := Prod.mk.inj found.range
    rw [start, stop]
    exact hold

/-- A call that is broken over two lines, which end with carriage returns. -/
def brokenCall : SourceUnit := ⟨.python, "f(\r\n)\r\n"⟩

/-- The node of that call. -/
def brokenNode : Node := .mk "call" true "" 0 5 []

/-- The lines of a broken call hold the call with its line end as a line feed, and those of a
decorated function the function. -/
theorem reported_lines_hold_broken :
    callHit brokenCall.text brokenNode = { startLine := 1, endLine := 2, text := "f(\r\n)" } ∧
    lineRange brokenCall.text 1 2 = .ok ("f(\n)", 2) ∧
    LinesHold brokenCall.text 1 2 "f(\r\n)" ∧
    ∀ symbol ∈ Outline.symbols Language.python.grammar Outline.decoratedText
      Outline.decoratedTree, LinesHold Outline.decoratedText symbol.startLine symbol.endLine
        (SourceUnit.codeOf ⟨.python, Outline.decoratedText⟩ symbol) := by
  have hit : callHit brokenCall.text brokenNode =
      { startLine := 1, endLine := 2, text := "f(\r\n)" } := by decide +kernel
  have broken := (reported_lines_hold brokenCall).1 brokenNode (by decide +kernel)
  rw [hit] at broken
  refine ⟨hit, by decide +kernel, broken, ?_⟩
  have covered : ∀ symbol ∈ Outline.symbols Language.python.grammar Outline.decoratedText
      Outline.decoratedTree, EndsInText Outline.decoratedText symbol.range := by decide +kernel
  intro symbol listed
  exact (reported_lines_hold ⟨.python, Outline.decoratedText⟩).2.2 Outline.decoratedTree symbol
    listed (covered symbol listed)

end CodeAtlas
