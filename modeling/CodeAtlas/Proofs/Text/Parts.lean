import CodeAtlas.Proofs.Text.Slices
import CodeAtlas.Tree
import Mathlib.Data.List.TakeWhile

/-!
# Parts of texts

Slices, first lines, pieces between separators and trimmed texts stand in the text they are
cut from. What is cut from a blank text is therefore blank, and nothing is left of it after
trimming.
-/

namespace CodeAtlas

namespace Chars

/-- What follows a lead is the rest of the text. -/
theorem stripPrefix?_eq_some {lead text rest : List Char} :
    stripPrefix? lead text = some rest ↔ text = lead ++ rest := by
  fun_induction stripPrefix? lead text with
  | case1 text => simp
  | case2 p lead => simp
  | case3 p lead text ih => simp [ih]
  | case4 p lead c text other => simp [Ne.symm other]

/-- What follows a lead is the end of the text. -/
theorem stripPrefix?_suffix {lead text rest : List Char}
    (found : stripPrefix? lead text = some rest) : rest <:+ text :=
  ⟨lead, (stripPrefix?_eq_some.mp found).symm⟩

/-- What precedes an end is the rest of the text. -/
theorem stripSuffix?_eq_some {tail text rest : List Char} :
    stripSuffix? tail text = some rest ↔ text = rest ++ tail := by
  unfold stripSuffix?
  rw [Option.map_eq_some_iff]
  constructor
  · rintro ⟨found, stripped, rfl⟩
    rw [← List.reverse_reverse text, stripPrefix?_eq_some.mp stripped, List.reverse_append,
      List.reverse_reverse]
  · rintro rfl
    exact ⟨rest.reverse, stripPrefix?_eq_some.mpr List.reverse_append, List.reverse_reverse rest⟩

/-- Nothing follows a lead exactly when the text does not begin with it. -/
theorem stripPrefix?_eq_none {lead text : List Char} :
    stripPrefix? lead text = none ↔ ¬lead <+: text := by
  rw [Option.eq_none_iff_forall_ne_some]
  constructor
  · rintro none ⟨rest, same⟩
    exact none rest (stripPrefix?_eq_some.mpr same.symm)
  · exact fun other rest found => other ⟨rest, (stripPrefix?_eq_some.mp found).symm⟩

/-- Nothing precedes an end exactly when the text does not end with it. -/
theorem stripSuffix?_eq_none {tail text : List Char} :
    stripSuffix? tail text = none ↔ ¬tail <:+ text := by
  unfold stripSuffix?
  rw [Option.map_eq_none_iff, stripPrefix?_eq_none, List.reverse_prefix]

/-- What follows the last mark is the end of the text. -/
theorem afterLast_suffix (mark text : List Char) : afterLast mark text <:+ text := by
  induction text with
  | nil => exact List.suffix_refl []
  | cons c text ih =>
    unfold afterLast
    split
    · exact ih.trans (List.suffix_cons c text)
    · cases stripped : stripPrefix? mark (c :: text) with
      | none => exact List.suffix_refl _
      | some rest => exact stripPrefix?_suffix stripped

/-- The first piece is what precedes the first separator. -/
theorem headD_splitAt (separator : Char) (text : List Char) :
    (splitAt separator text).headD [] = text.takeWhile (· ≠ separator) := by
  induction text with
  | nil => rfl
  | cons c text ih =>
    by_cases here : c = separator
    · simp [splitAt, here]
    · rw [List.takeWhile_cons_of_pos (by simpa using here), ← ih, splitAt, if_neg here]
      cases splitAt separator text <;> rfl

/-- The first line of a text begins it. -/
theorem headD_lines_initial (text : List Char) : (lines text).headD [] <+: text := by
  fun_induction lines text with
  | case1 => exact List.prefix_refl []
  | case2 rest ih => exact List.nil_prefix
  | case3 rest ih => exact List.nil_prefix
  | case4 c rest _ _ none ih => exact List.cons_prefix_cons.mpr ⟨rfl, List.nil_prefix⟩
  | case5 c rest _ _ line others found ih =>
    rw [found] at ih
    exact List.cons_prefix_cons.mpr ⟨rfl, ih⟩

/-- A text contains what stands in it. -/
theorem contains_iff_infix {needle text : List Char} :
    contains needle text = true ↔ needle <:+: text := by
  induction text with
  | nil => rw [contains, List.isEmpty_iff, List.infix_nil]
  | cons c text ih =>
    rw [contains, Bool.or_eq_true, List.isPrefixOf_iff_prefix, ih, List.infix_cons_iff]

/-! ## Trimming -/

/-- Without the white space at its end a text still begins in the same way. -/
theorem trimEnd_initial (text : List Char) : trimEnd text <+: text := by
  have rest := List.dropWhile_suffix isBlankChar (l := text.reverse)
  rw [← List.reverse_prefix, List.reverse_reverse] at rest
  exact rest

/-- A trimmed text stands in the text. -/
theorem trim_infix (text : List Char) : trim text <:+: text :=
  (trimEnd_initial _).isInfix.trans (List.dropWhile_suffix _).isInfix

/-- A text that was trimmed at its end does not end with white space. -/
theorem isBlankChar_of_getLast?_trimEnd {text : List Char} {c : Char}
    (last : c ∈ (trimEnd text).getLast?) : isBlankChar c = false := by
  have first := List.head?_dropWhile_not isBlankChar text.reverse
  rw [trimEnd, List.getLast?_reverse] at last
  rwa [Option.mem_def.mp last] at first

/-- A text that was trimmed does not begin with white space. -/
theorem isBlankChar_of_head?_trim {text : List Char} {c : Char}
    (first : c ∈ (trim text).head?) : isBlankChar c = false := by
  have start := List.head?_dropWhile_not isBlankChar text
  obtain ⟨rest, same⟩ := trimEnd_initial (trimStart text)
  change trim text ++ rest = text.dropWhile isBlankChar at same
  rw [← same, List.head?_append, Option.mem_def.mp first] at start
  exact start

/-- A text without white space at its ends is trimmed. -/
theorem trim_eq_self {text : List Char} (first : ∀ c ∈ text.head?, isBlankChar c = false)
    (last : ∀ c ∈ text.getLast?, isBlankChar c = false) : trim text = text := by
  have start : trimStart text = text := by
    cases text with
    | nil => rfl
    | cons c text =>
      exact List.dropWhile_cons_of_neg (by simp [first c rfl])
  unfold trim trimEnd
  rw [start]
  cases reversed : text.reverse with
  | nil => rw [List.reverse_eq_nil_iff.mp reversed]; rfl
  | cons c others =>
    rw [← List.head?_reverse, reversed] at last
    rw [List.dropWhile_cons_of_neg (by simp [last c rfl]), ← reversed, List.reverse_reverse]

/-- A trimmed text stays as it is when it is trimmed again. -/
theorem trim_trim (text : List Char) : trim (trim text) = trim text :=
  trim_eq_self (fun _ => isBlankChar_of_head?_trim) fun _ => isBlankChar_of_getLast?_trimEnd

/-- White space in front of a text is trimmed away. -/
theorem trim_append {blank text : List Char} (allBlank : ∀ c ∈ blank, isBlankChar c = true) :
    trim (blank ++ text) = trim text := by
  unfold trim trimStart
  rw [List.dropWhile_append_of_pos allBlank]

/-- White space behind a text is trimmed away. -/
theorem trim_append_blank {text blank : List Char} (allBlank : ∀ c ∈ blank, isBlankChar c = true) :
    trim (text ++ blank) = trim text := by
  unfold trim trimStart
  rw [List.dropWhile_append]
  split
  · rename_i none
    rw [List.isEmpty_iff.mp none, List.dropWhile_eq_nil_iff.mpr allBlank]
  · unfold trimEnd
    rw [List.reverse_append, List.dropWhile_append_of_pos (by simpa using allBlank)]

/-- Nothing is left of white space, and of nothing else. -/
theorem trim_eq_nil_iff {text : List Char} :
    trim text = [] ↔ ∀ c ∈ text, isBlankChar c = true := by
  constructor
  · intro none
    -- What is left at the start is dropped at the end, so it is white space all the same.
    have start : ∀ c ∈ trimStart text, isBlankChar c = true := by
      have dropped := List.dropWhile_eq_nil_iff.mp (List.reverse_eq_nil_iff.mp none)
      exact fun c member => dropped c (List.mem_reverse.mpr member)
    have first := List.head?_dropWhile_not isBlankChar text
    cases rest : trimStart text with
    | nil => exact List.dropWhile_eq_nil_iff.mp rest
    | cons c others =>
      have blank := start c (by rw [rest]; exact List.mem_cons_self)
      change text.dropWhile isBlankChar = _ at rest
      simp [rest, blank] at first
  · intro blank
    have start : trimStart text = [] := List.dropWhile_eq_nil_iff.mpr blank
    unfold trim
    rw [start]
    rfl

end Chars

namespace Text

/-- The first line of a text begins it. -/
theorem firstLine_initial (text : String) : (firstLine text).toList <+: text.toList := by
  have first := Chars.headD_lines_initial text.toList
  unfold firstLine lines
  cases cut : Chars.lines text.toList with
  | nil => exact List.nil_prefix
  | cons line others =>
    rw [cut] at first
    rw [List.map_cons, List.headD_cons, String.toList_ofList]
    exact first

/-- Without the white space at its end a text still begins in the same way. -/
theorem trimEnd_initial (text : String) : (trimEnd text).toList <+: text.toList := by
  unfold trimEnd
  rw [String.toList_ofList]
  exact Chars.trimEnd_initial text.toList

/-- What follows a lead is the rest of the text. -/
theorem stripPrefix?_eq_some {lead text rest : String} :
    stripPrefix? lead text = some rest ↔ text = lead ++ rest := by
  unfold stripPrefix?
  rw [← String.toList_inj, String.toList_append, ← Chars.stripPrefix?_eq_some]
  cases Chars.stripPrefix? lead.toList text.toList with
  | none => simp
  | some found => simp [← String.toList_inj]

/-- What precedes an end is the rest of the text. -/
theorem stripSuffix?_append (rest tail : String) : stripSuffix? tail (rest ++ tail) = some rest := by
  unfold stripSuffix?
  rw [Chars.stripSuffix?_eq_some.mpr String.toList_append, Option.map_some, String.ofList_toList]

/-- Nothing follows a lead exactly when the text does not begin with it. -/
theorem stripPrefix?_eq_none {lead text : String} :
    stripPrefix? lead text = none ↔ ¬lead.toList <+: text.toList := by
  unfold stripPrefix?
  rw [Option.map_eq_none_iff, Chars.stripPrefix?_eq_none]

/-- Nothing precedes an end exactly when the text does not end with it. -/
theorem stripSuffix?_eq_none {tail text : String} :
    stripSuffix? tail text = none ↔ ¬tail.toList <:+ text.toList := by
  unfold stripSuffix?
  rw [Option.map_eq_none_iff, Chars.stripSuffix?_eq_none]

/-- A text without white space at its ends is trimmed. -/
theorem trim_eq_self {text : String} (first : ∀ c ∈ text.toList.head?, isBlankChar c = false)
    (last : ∀ c ∈ text.toList.getLast?, isBlankChar c = false) : trim text = text := by
  rw [trim, Chars.trim_eq_self first last, String.ofList_toList]

/-- White space in front of a text is trimmed away. -/
theorem trim_append {blank text : String} (allBlank : isBlank blank = true) :
    trim (blank ++ text) = trim text := by
  unfold trim
  rw [String.toList_append, Chars.trim_append (List.all_eq_true.mp allBlank)]

/-- White space behind a text is trimmed away. -/
theorem trim_append_blank {blank : String} (allBlank : isBlank blank = true) (text : String) :
    trim (text ++ blank) = trim text := by
  unfold trim
  rw [String.toList_append, Chars.trim_append_blank (List.all_eq_true.mp allBlank)]

/-- A trimmed text does not end with white space. -/
theorem isBlankChar_of_getLast?_trim {text : String} {c : Char}
    (last : c ∈ (trim text).toList.getLast?) : isBlankChar c = false := by
  unfold trim at last
  rw [String.toList_ofList] at last
  exact Chars.isBlankChar_of_getLast?_trimEnd last

/-- A trimmed text stays as it is when it is trimmed again. -/
theorem trim_trim (text : String) : trim (trim text) = trim text := by
  unfold trim
  rw [String.toList_ofList, Chars.trim_trim]

/-- Nothing is left of a blank text, and of no other. -/
theorem trim_eq_empty_iff {text : String} : trim text = "" ↔ isBlank text = true := by
  unfold trim isBlank
  rw [List.all_eq_true, ← Chars.trim_eq_nil_iff, ← String.toList_eq_nil_iff,
    String.toList_ofList]

/-- The first piece is what precedes the first separator. -/
theorem headD_splitAt (separator : Char) (text : String) :
    (splitAt separator text).headD "" =
      String.ofList (text.toList.takeWhile (· ≠ separator)) := by
  rw [← Chars.headD_splitAt]
  unfold splitAt
  cases Chars.splitAt separator text.toList <;> rfl

/-- Nothing is left of a part of a blank text. -/
theorem trim_eq_empty_of_subset {text part : String} (blank : isBlank text = true)
    (inside : part.toList ⊆ text.toList) : trim part = "" := by
  rw [trim_eq_empty_iff]
  exact List.all_eq_true.mpr fun c member => List.all_eq_true.mp blank c (inside member)

/-- A text contains what any part of it contains. -/
theorem contains_of_infix {needle part text : String} (inside : part.toList <:+: text.toList)
    (found : contains needle part = true) : contains needle text = true :=
  Chars.contains_iff_infix.mpr ((Chars.contains_iff_infix.mp found).trans inside)

end Text

/-- The text of a node stands in the source. -/
theorem Node.text_infix (source : String) (node : Node) :
    (node.text source).toList <:+: source.toList := by
  unfold Node.text Text.slice?
  cases found : Chars.slice? node.start node.stop source.toList with
  | none => exact List.nil_infix
  | some piece =>
    rw [Option.map_some, Option.getD_some, String.toList_ofList]
    obtain ⟨before, after, same, _, _⟩ := Chars.slice?_eq_some.mp found
    exact ⟨before, after, same.symm⟩

end CodeAtlas
