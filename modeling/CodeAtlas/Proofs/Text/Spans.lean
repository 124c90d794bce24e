import CodeAtlas.Context
import CodeAtlas.Proofs.Text.Joined
import CodeAtlas.Proofs.Text.Lines
import CodeAtlas.Proofs.Text.Parts

/-!
# Spans of lines

A span is what stands from one line to another, both included. Spans that follow each other
make one span, so nothing is lost when a text is read page by page: two pages and a line feed
between them are the page of both. All lines together are the text, up to a line feed at its
end and the carriage returns of its line ends.
-/

namespace CodeAtlas

/-- The lines `first` to `last`, counted from one; a last line past the end is clipped. -/
def lineSpan (lines : List String) (first last : Nat) : List String :=
  (lines.take last).drop (first - 1)

section

variable {lines : List String} {first middle last : Nat}

/-- The number of lines in a span. -/
theorem length_lineSpan (lines : List String) (first last : Nat) :
    (lineSpan lines first last).length = min last lines.length - (first - 1) := by
  rw [lineSpan, List.length_drop, List.length_take]

/-- A span ends with the text. -/
theorem lineSpan_min (lines : List String) (first last : Nat) :
    lineSpan lines first (min last lines.length) = lineSpan lines first last := by
  unfold lineSpan
  rw [← List.take_eq_take_min]

/-- A span and the span that follows it are one span. -/
theorem lineSpan_append (lines : List String) (starts : first ≤ middle + 1)
    (stops : middle ≤ last) :
    lineSpan lines first middle ++ lineSpan lines (middle + 1) last =
      lineSpan lines first last := by
  have earlier : lineSpan lines first middle =
      (lineSpan lines first last).take (middle - (first - 1)) := by
    unfold lineSpan
    rw [← List.drop_take, List.take_take, Nat.min_eq_left stops]
  have later : lineSpan lines (middle + 1) last =
      (lineSpan lines first last).drop (middle - (first - 1)) := by
    unfold lineSpan
    rw [List.drop_drop, Nat.add_sub_cancel, Nat.add_sub_cancel' (by omega)]
  rw [earlier, later, List.take_append_drop]

/-- A span that begins within the text and does not end before it begins is not empty. -/
theorem lineSpan_ne_nil (starts : 1 ≤ first) (ordered : first ≤ last)
    (present : first ≤ lines.length) : lineSpan lines first last ≠ [] := by
  apply List.ne_nil_of_length_pos
  rw [length_lineSpan]
  omega

end

/-! ## All lines -/

namespace Chars

/-- A character in front of a text adds at most one line. -/
theorem exists_lines_cons (c : Char) (rest : List Char) :
    ∃ line others, lines (c :: rest) = line :: others ∧ others.length ≤ (lines rest).length := by
  by_cases feed : c = '\n'
  · subst feed
    exact ⟨[], lines rest, rfl, Nat.le_refl _⟩
  by_cases pair : ∃ later, c = '\r' ∧ rest = '\n' :: later
  · obtain ⟨later, rfl, rfl⟩ := pair
    exact ⟨[], lines later, rfl, Nat.le_succ _⟩
  · refine ⟨_, _, lines_cons feed fun later carriage next => pair ⟨later, carriage, next⟩, ?_⟩
    rw [List.length_tail]
    exact Nat.sub_le _ 1

/-- Only the empty text has no lines. -/
theorem lines_eq_nil {text : List Char} : lines text = [] ↔ text = [] := by
  cases text with
  | nil => exact iff_of_true rfl rfl
  | cons c rest =>
    obtain ⟨line, others, cut, _⟩ := exists_lines_cons c rest
    rw [cut]
    exact iff_of_false (List.cons_ne_nil _ _) (List.cons_ne_nil _ _)

/-- All lines of a text without carriage returns, joined by line feeds, are the text or lack the
line feed at its end. -/
theorem join_lines {text : List Char} (visible : text ≠ []) (plain : '\r' ∉ text) :
    join ['\n'] (lines text) ++ ['\n'] = text ∨
      (join ['\n'] (lines text) = text ∧ text.getLast? ≠ some '\n') := by
  induction text with
  | nil => exact absurd rfl visible
  | cons c rest ih =>
    obtain ⟨other, others⟩ := not_or.mp (mt List.mem_cons.mpr plain)
    by_cases last : rest = []
    · subst last
      by_cases feed : c = '\n'
      · subst feed
        exact .inl rfl
      · rw [lines_cons feed fun _ carriage => absurd carriage.symm other]
        exact .inr ⟨rfl, by simpa using feed⟩
    · have more : lines rest ≠ [] := mt lines_eq_nil.mp last
      -- In front of the rest, every character stands in front of its joined lines.
      have front : join ['\n'] (lines (c :: rest)) = c :: join ['\n'] (lines rest) := by
        by_cases feed : c = '\n'
        · subst feed
          change join ['\n'] ([] :: lines rest) = _
          rw [join_cons _ _ more]
          rfl
        · rw [lines_cons feed fun _ carriage => absurd carriage.symm other]
          obtain ⟨line, later, cut⟩ := List.exists_cons_of_ne_nil more
          rw [cut]
          exact join_cons_cons ..
      rw [front, List.getLast?_cons_of_ne_nil last, List.cons_append]
      exact (ih last others).imp (congrArg (c :: ·)) fun ⟨same, ends⟩ =>
        ⟨congrArg (c :: ·) same, ends⟩

end Chars

/-- All lines of a text without carriage returns, joined by line feeds, are the text without a
line feed at its end. -/
theorem Text.join_lines {text : String} (visible : text ≠ "") (plain : '\r' ∉ text.toList) :
    join "\n" (lines text) = (stripSuffix? "\n" text).getD text := by
  have some : text.toList ≠ [] := mt String.toList_eq_nil_iff.mp visible
  have joined : join "\n" (lines text) =
      String.ofList (Chars.join ['\n'] (Chars.lines text.toList)) := by
    simp [join, lines]
  have stripped : stripSuffix? "\n" text =
      (Chars.stripSuffix? ['\n'] text.toList).map String.ofList := rfl
  rw [joined, stripped]
  obtain whole | ⟨same, ends⟩ := Chars.join_lines some plain
  · rw [Chars.stripSuffix?_eq_some.mpr whole.symm]
    rfl
  · have unended : ¬['\n'] <:+ text.toList := by
      rintro ⟨rest, whole⟩
      rw [← whole] at ends
      exact ends List.getLast?_concat
    rw [Chars.stripSuffix?_eq_none.mpr unended, same, String.ofList_toList]
    rfl

/-! ## Pages -/

section

variable {text : String} {first last : Nat}

/-- A range of lines can be shown exactly when it begins within the text and does not end before
it begins. It is clipped to the text. -/
theorem lineRange_eq_ok_iff {answer : String × Nat} :
    lineRange text first last = .ok answer ↔
      (1 ≤ first ∧ first ≤ last ∧ first ≤ (Text.lines text).length) ∧
        answer = (Text.join "\n" (lineSpan (Text.lines text) first last),
          min last (Text.lines text).length) := by
  unfold lineRange
  split
  · exact ⟨nofun, by omega⟩
  split
  · exact ⟨nofun, by omega⟩
  simp only
  split
  · exact ⟨nofun, by omega⟩
  · rw [← lineSpan_min, Except.ok.injEq]
    exact ⟨fun same => ⟨by omega, same.symm⟩, fun same => same.2.symm⟩

/-- A range that can be shown is the span of its lines. -/
theorem lineRange_eq_span (starts : 1 ≤ first) (ordered : first ≤ last)
    (present : first ≤ (Text.lines text).length) :
    lineRange text first last = .ok (Text.join "\n" (lineSpan (Text.lines text) first last),
      min last (Text.lines text).length) :=
  lineRange_eq_ok_iff.mpr ⟨⟨starts, ordered, present⟩, rfl⟩

end

/-- A text is read page by page without a loss. A page is shown exactly when it begins within the
text and does not end before it begins, and it ends with the text at the latest. Two pages that
follow each other are, with a line feed between them, the page of both. The page of all lines is
the text without a line feed at its end, if the text has lines and no carriage returns. -/
theorem lineRange_pages (text : String) :
    (∀ first last, (∃ answer, lineRange text first last = .ok answer) ↔
      1 ≤ first ∧ first ≤ last ∧ first ≤ (Text.lines text).length) ∧
    (∀ first last code shown, lineRange text first last = .ok (code, shown) →
      shown = min last (Text.lines text).length) ∧
    (∀ first middle last, 1 ≤ first → first ≤ middle → middle < (Text.lines text).length →
      middle < last →
        ∃ front back shown, lineRange text first middle = .ok (front, middle) ∧
          lineRange text (middle + 1) last = .ok (back, shown) ∧
          lineRange text first last = .ok (front ++ "\n" ++ back, shown)) ∧
    (text ≠ "" → '\r' ∉ text.toList → ∀ last, (Text.lines text).length ≤ last →
      lineRange text 1 last =
        .ok ((Text.stripSuffix? "\n" text).getD text, (Text.lines text).length)) := by
  refine ⟨fun first last => ?_, fun first last code shown done => ?_, ?_, ?_⟩
  · simp only [lineRange_eq_ok_iff, exists_and_left, exists_eq, and_true]
  · exact congrArg Prod.snd (lineRange_eq_ok_iff.mp done).2
  · intro first middle last starts ordered inside more
    have present : first ≤ (Text.lines text).length := by omega
    have front := lineRange_eq_span starts ordered present
    have back := lineRange_eq_span (Nat.le_add_left 1 middle) more inside
    rw [Nat.min_eq_left (Nat.le_of_lt inside)] at front
    refine ⟨_, _, _, front, back, ?_⟩
    rw [lineRange_eq_span starts (by omega) present,
      ← lineSpan_append _ (Nat.le_succ_of_le ordered) (Nat.le_of_lt more),
      Text.join_append (lineSpan_ne_nil starts ordered present)
        (lineSpan_ne_nil (Nat.le_add_left 1 middle) more inside)]
  · intro visible plain last whole
    have some : 1 ≤ (Text.lines text).length := by
      rw [Text.lines, List.length_map]
      exact List.length_pos_of_ne_nil
        (mt Chars.lines_eq_nil.mp (mt String.toList_eq_nil_iff.mp visible))
    rw [lineRange_eq_span (Nat.le_refl 1) (by omega) some, lineSpan,
      List.take_of_length_le whole, Nat.sub_self, List.drop_zero,
      Text.join_lines visible plain, Nat.min_eq_right whole]

/-- A text with an empty line in it and one at its end, read in two pages and as a whole. -/
theorem lineRange_pages_blank :
    lineRange "a\n\nb\n\n" 2 3 = .ok ("\nb", 3) ∧
    (∃ front back shown, lineRange "a\n\nb\n\n" 1 2 = .ok (front, 2) ∧
      lineRange "a\n\nb\n\n" (2 + 1) 9 = .ok (back, shown) ∧
      lineRange "a\n\nb\n\n" 1 9 = .ok (front ++ "\n" ++ back, shown)) ∧
    lineRange "a\n\nb\n\n" 1 9 = .ok ("a\n\nb\n", 4) := by
  obtain ⟨_, clipped, pages, whole⟩ := lineRange_pages "a\n\nb\n\n"
  have total : (Text.lines "a\n\nb\n\n").length = 4 := by decide +kernel
  have stripped : (Text.stripSuffix? "\n" "a\n\nb\n\n").getD "a\n\nb\n\n" = "a\n\nb\n" := by
    decide +kernel
  have read : lineRange "a\n\nb\n\n" 2 3 = .ok ("\nb", 3) := by decide +kernel
  refine ⟨read, pages 1 2 9 (by decide) (by decide) (by rw [total]; decide) (by decide), ?_⟩
  have all := whole (by decide) (by decide) 9 (by rw [total]; decide)
  rwa [total, stripped] at all

end CodeAtlas
