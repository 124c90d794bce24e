import CodeAtlas.Comment
import CodeAtlas.Proofs.Text.Lines
import CodeAtlas.Proofs.Text.Parts
import Mathlib.Data.List.DropRight

/-!
# Comments and their content

The delimiters of a comment and the stars in front of its lines are layout. A block in the usual
layout, a line of content behind each star, is cleaned to exactly its content: a line may begin
with further stars, with slashes or with whatever opens a comment, and only the empty lines
around the content are lost. Of a block with white space alone nothing is left, however it is cut
into lines, except where what opens the comment and what closes it run into each other.
-/

namespace CodeAtlas

/-! ## Line ends -/

/-- What ends a line: a line feed, or a carriage return and a line feed. -/
inductive LineEnd where
  | feed
  | pair

/-- The text of a line end. -/
def LineEnd.text : LineEnd → String
  | .feed => "\n"
  | .pair => "\r\n"

/-- A text of one line, in front of a line end, is the first line. -/
theorem Text.lines_of_line {line : String} (visible : line ≠ "") (single : '\n' ∉ line.toList)
    (alone : line.toList.getLast? ≠ some '\r') (ending : LineEnd) (after : String) :
    lines (line ++ ending.text ++ after) = line :: lines after := by
  have some : line.toList ≠ [] := mt String.toList_eq_nil_iff.mp visible
  have cut (after : List Char) := Chars.lines_append some single after (absurd · alone)
  unfold lines
  rw [String.append_assoc, String.toList_append, String.toList_append, cut]
  cases ending <;> simp [LineEnd.text, Chars.lines]

/-- A text of one line is its last line. -/
theorem Text.lines_of_last {line : String} (visible : line ≠ "") (single : '\n' ∉ line.toList) :
    lines line = [line] := by
  have some : line.toList ≠ [] := mt String.toList_eq_nil_iff.mp visible
  have cut := Chars.lines_append some single [] fun _ => nofun
  rw [List.append_nil] at cut
  simp [lines, cut, Chars.lines]

namespace Comment

/-! ## Blocks of gutter lines -/

/-- White space in front of a star, on one line. -/
structure Indent where
  text : String
  blank : Text.isBlank text = true
  single : '\n' ∉ text.toList

/-- What a line says: a text of one line, without white space around it, that does not end
the comment. -/
structure Content where
  text : String
  trimmed : Text.trim text = text
  single : '\n' ∉ text.toList
  noReturn : '\r' ∉ text.toList
  unclosed : Text.endsWith "*/" text = false

/-- A line with its content behind a star. -/
structure GutterLine where
  indent : Indent
  content : Content
  ending : LineEnd

/-- A line without its end. -/
def GutterLine.line (line : GutterLine) : String :=
  line.indent.text ++ ("* " ++ line.content.text)

/-- A block comment: a line that opens it, lines of content, and a line that closes it. -/
structure Block where
  opening : LineEnd
  lines : List GutterLine
  closing : Indent
  ending? : Option LineEnd

/-- The text of lines, each with its end. -/
def gutterText : List GutterLine → String
  | [] => ""
  | line :: lines => line.line ++ line.ending.text ++ gutterText lines

/-- The last line of a block. -/
def Block.lastLine (block : Block) : String := block.closing.text ++ "*/"

/-- The text of a block. -/
def Block.text (block : Block) : String :=
  "/**" ++ block.opening.text ++
    (gutterText block.lines ++ (block.lastLine ++ (block.ending?.map LineEnd.text).getD ""))

/-- The content of a block, line by line. -/
def Block.contents (block : Block) : List String :=
  block.lines.map fun line => line.content.text

/-! ## Lines of a block -/

/-- White space in front of a line is no part of what it says. -/
theorem cleanLine_append {blank : String} (allBlank : Text.isBlank blank = true) (line : String) :
    cleanLine (blank ++ line) = cleanLine line := by
  unfold cleanLine
  rw [Text.trim_append allBlank]

/-- No opening begins with a star, so none fits a line behind one. -/
theorem findSome?_openings (rest : String) :
    (openings.findSome? fun opening => Text.stripPrefix? opening ("*" ++ rest)) = none := by
  rw [List.findSome?_eq_none_iff]
  intro opening listed
  have starless : ∀ opening ∈ openings,
      opening.toList ≠ [] ∧ opening.toList.head? ≠ some '*' := by decide
  obtain ⟨visible, other⟩ := starless opening listed
  rw [Text.stripPrefix?_eq_none, String.toList_append]
  rintro ⟨after, same⟩
  have first := congrArg List.head? same
  rw [List.head?_append_of_ne_nil _ visible] at first
  exact other first

/-- A line of content does not close the comment. -/
theorem stripSuffix?_content (content : Content) :
    Text.stripSuffix? "*/" ("* " ++ content.text) = none := by
  have inside : ¬['*', '/'] <:+ content.text.toList := by
    rw [← List.isSuffixOf_iff_suffix, Bool.not_eq_true]
    exact content.unclosed
  rw [Text.stripSuffix?_eq_none, String.toList_append]
  change ¬['*', '/'] <:+ '*' :: ' ' :: content.text.toList
  simp [List.suffix_cons_iff, inside]

/-- A line of content is read back from behind its star. -/
theorem cleanLine_content (content : Content) :
    cleanLine ("* " ++ content.text) = content.text := by
  by_cases empty : content.text = ""
  · rw [empty]
    decide +kernel
  · have some : content.text.toList ≠ [] := mt String.toList_eq_nil_iff.mp empty
    have shown : Text.trim ("* " ++ content.text) = "* " ++ content.text := by
      apply Text.trim_eq_self
      · intro c first
        obtain rfl : '*' = c := by simpa using first
        decide
      · intro c last
        rw [String.toList_append, List.getLast?_append_of_ne_nil _ some, ← content.trimmed] at last
        exact Text.isBlankChar_of_getLast?_trim last
    have star : "* " ++ content.text = "*" ++ (" " ++ content.text) := by
      rw [← String.append_assoc]
      rfl
    have unopened := findSome?_openings (" " ++ content.text)
    have behind := Text.stripPrefix?_eq_some.mpr star
    rw [← star] at unopened
    unfold cleanLine
    simp only [shown, unopened, Option.getD_none, stripSuffix?_content, behind, Option.getD_some]
    rw [Text.trim_append (by decide), content.trimmed]

/-! ## Whole blocks -/

/-- Whether a text is not empty and stands on one line. -/
structure OneLine (text : String) : Prop where
  visible : text.toList ≠ []
  single : '\n' ∉ text.toList
  noReturn : '\r' ∉ text.toList

/-- Content behind a star is such a text. -/
theorem Content.oneLine (content : Content) : OneLine ("* " ++ content.text) where
  visible := by simp
  single := by simp [content.single]
  noReturn := by simp [content.noReturn]

/-- What closes a comment is such a text. -/
theorem oneLine_closing : OneLine "*/" := ⟨by decide, by decide, by decide⟩

section

variable {text : String}

/-- Behind white space, it is not empty either. -/
theorem OneLine.append_ne_empty (oneLine : OneLine text) (indent : Indent) :
    indent.text ++ text ≠ "" := by
  rw [ne_eq, ← String.toList_eq_nil_iff, String.toList_append]
  exact List.append_ne_nil_of_right_ne_nil _ oneLine.visible

/-- Behind white space on its line, it is still on one line. -/
theorem OneLine.single_append (oneLine : OneLine text) (indent : Indent) :
    '\n' ∉ (indent.text ++ text).toList := by
  rw [String.toList_append, List.mem_append]
  exact not_or.mpr ⟨indent.single, oneLine.single⟩

/-- In front of a line end, such a text and white space before it are the first line. -/
theorem OneLine.lines_append (oneLine : OneLine text) (indent : Indent) (ending : LineEnd)
    (after : String) :
    Text.lines (indent.text ++ text ++ ending.text ++ after) =
      (indent.text ++ text) :: Text.lines after := by
  refine Text.lines_of_line (oneLine.append_ne_empty indent) (oneLine.single_append indent) ?_
    ending after
  rw [String.toList_append, List.getLast?_append_of_ne_nil _ oneLine.visible]
  exact fun last => oneLine.noReturn (List.mem_of_getLast? last)

/-- At the end of a text, they are its last line, with a line end or without. -/
theorem OneLine.lines_last (oneLine : OneLine text) (indent : Indent) (ending? : Option LineEnd) :
    Text.lines (indent.text ++ text ++ (ending?.map LineEnd.text).getD "") =
      [indent.text ++ text] := by
  cases ending? with
  | none =>
    rw [Option.map_none, Option.getD_none, String.append_empty]
    exact Text.lines_of_last (oneLine.append_ne_empty indent) (oneLine.single_append indent)
  | some ending =>
    have lines := oneLine.lines_append indent ending ""
    rw [String.append_empty] at lines
    exact lines

end

/-- Lines of content come before the lines of what follows them. -/
theorem lines_gutterText (lines : List GutterLine) (after : String) :
    Text.lines (gutterText lines ++ after) = lines.map GutterLine.line ++ Text.lines after := by
  induction lines with
  | nil => rw [gutterText, String.empty_append, List.map_nil, List.nil_append]
  | cons line lines ih =>
    rw [gutterText, String.append_assoc, List.map_cons, List.cons_append, ← ih]
    exact line.content.oneLine.lines_append line.indent line.ending _

/-- The lines of a block are the line that opens it, those of its content, and the line that
closes it. -/
theorem Block.lines_text (block : Block) :
    Text.lines block.text =
      "/**" :: block.lines.map GutterLine.line ++ [block.lastLine] := by
  unfold Block.text
  rw [Text.lines_of_line (by decide) (by decide) (by decide), lines_gutterText]
  exact congrArg (fun last => "/**" :: (block.lines.map GutterLine.line ++ last))
    (oneLine_closing.lines_last block.closing block.ending?)

/-! ## What is left -/

/-- Lines between two empty ones lose the empty lines at their ends with these. -/
theorem dropOuterEmpty_append (lines : List String) :
    dropOuterEmpty ("" :: lines ++ [""]) = (lines.dropWhile (· = "")).rdropWhile (· = "") := by
  change ((("" :: lines ++ [""]).dropWhile (· = "")).rdropWhile (· = "")) = _
  rw [List.cons_append, List.dropWhile_cons_of_pos (by decide), List.dropWhile_append]
  split
  · rename_i none
    rw [List.isEmpty_iff.mp none]
    rfl
  · exact List.rdropWhile_concat_pos _ _ _ (by decide)

/-- A block is cleaned to its content, without the empty lines around it. Nothing is left of a
block whose lines are all empty. -/
theorem clean_block (block : Block) :
    clean block.text =
        Text.join "\n" ((block.contents.dropWhile (· = "")).rdropWhile (· = "")) ∧
      ((∀ content ∈ block.contents, content = "") → clean block.text = "") := by
  have opening : cleanLine "/**" = "" := by decide +kernel
  have closing : cleanLine block.lastLine = "" := by
    rw [Block.lastLine, cleanLine_append block.closing.blank]
    decide +kernel
  have contents : (block.lines.map GutterLine.line).map cleanLine = block.contents := by
    rw [List.map_map]
    refine List.map_congr_left fun line _ => ?_
    exact (cleanLine_append line.indent.blank _).trans (cleanLine_content line.content)
  have cleaned : clean block.text =
      Text.join "\n" ((block.contents.dropWhile (· = "")).rdropWhile (· = "")) := by
    rw [clean, block.lines_text, List.map_append, List.map_cons, opening, contents,
      List.map_singleton, closing, dropOuterEmpty_append]
  refine ⟨cleaned, fun empty => ?_⟩
  have none : block.contents.dropWhile (· = "") = [] :=
    List.dropWhile_eq_nil_iff.mpr (by simpa using empty)
  rw [cleaned, none]
  rfl

/-- A block in which lines of content begin as comments do and with a second star, with an empty
line at each end. -/
def nestedBlock : Block where
  opening := .pair
  lines :=
    let indent : Indent := ⟨" ", by decide, by decide⟩
    let empty : Content := ⟨"", by decide, by decide, by decide, by decide⟩
    let slashes : Content := ⟨"/// # a */ b", by decide, by decide, by decide, by decide⟩
    let star : Content := ⟨"* c", by decide, by decide, by decide, by decide⟩
    [⟨indent, empty, .feed⟩, ⟨indent, slashes, .pair⟩, ⟨indent, empty, .feed⟩,
     ⟨indent, star, .feed⟩, ⟨indent, empty, .feed⟩]
  closing := ⟨"\t", by decide, by decide⟩
  ending? := none

/-- Only the empty lines at the ends are lost. -/
theorem clean_block_nested :
    nestedBlock.text = "/**\r\n * \n * /// # a */ b\r\n * \n * * c\n * \n\t*/" ∧
      clean nestedBlock.text = "/// # a */ b\n\n* c" := by
  constructor
  · decide +kernel
  · rw [(clean_block nestedBlock).1]
    decide +kernel

/-! ## Blocks without content -/

/-- White space behind a line is no part of what it says. -/
theorem cleanLine_append_blank {blank : String} (allBlank : Text.isBlank blank = true)
    (line : String) : cleanLine (line ++ blank) = cleanLine line := by
  unfold cleanLine
  rw [Text.trim_append_blank allBlank]

/-- Nothing is left of a comment whose lines say nothing. -/
theorem clean_eq_empty {text : String} (silent : ∀ line ∈ Text.lines text, cleanLine line = "") :
    clean text = "" := by
  have none : ((Text.lines text).map cleanLine).dropWhile (· = "") = [] := by
    simpa [List.dropWhile_eq_nil_iff] using silent
  rw [clean, dropOuterEmpty, none]
  rfl

/-- A slash and two stars open a line. -/
theorem findSome?_openings_stars (rest : String) :
    (openings.findSome? fun opening => Text.stripPrefix? opening ("/**" ++ rest)) = some rest := by
  simp [openings, Text.stripPrefix?, Chars.stripPrefix?]

/-- A slash and a star open a line when no second star follows. -/
theorem findSome?_openings_star {rest : String} (single : rest.toList.head? ≠ some '*') :
    (openings.findSome? fun opening => Text.stripPrefix? opening ("/*" ++ rest)) = some rest := by
  have stars : Text.stripPrefix? "/**" ("/*" ++ rest) = none := by
    rw [Text.stripPrefix?_eq_none, String.toList_append]
    rintro ⟨after, same⟩
    have next := congrArg (List.head? ∘ List.drop 2) same
    exact single (by simpa using next.symm)
  have star : Text.stripPrefix? "/*" ("/*" ++ rest) = some rest := Text.stripPrefix?_eq_some.mpr rfl
  have slashes : ∀ opening ∈ ["///", "//!", "//"],
      Text.stripPrefix? opening ("/*" ++ rest) = none := by
    simp [Text.stripPrefix?, Chars.stripPrefix?]
  simp [openings, stars, star, slashes]

/-- A line is empty when white space is all between what opens and what closes it. -/
theorem cleanLine_of_opened {line inside : String} (blank : Text.isBlank inside = true)
    (shown : Text.trim line = line)
    (opened : (openings.findSome? fun opening => Text.stripPrefix? opening line) =
      some (inside ++ "*/")) : cleanLine line = "" := by
  have rest : Text.trim inside = "" := Text.trim_eq_empty_iff.mpr blank
  unfold cleanLine
  simp only [shown, opened, Option.getD_some, Text.stripSuffix?_append, rest]
  decide

/-- A block comment with nothing but white space in it. -/
structure EmptyBlock where
  opening : String
  listed : opening ∈ ["/*", "/**"]
  inside : String
  blank : Text.isBlank inside = true

/-- The text of such a block. -/
def EmptyBlock.text (block : EmptyBlock) : String := block.opening ++ (block.inside ++ "*/")

/-- On one line, nothing is said between the delimiters, unless the slash that closes the comment
follows the star that opens it. -/
theorem EmptyBlock.cleanLine_text (block : EmptyBlock) (apart : block.text ≠ "/**/") :
    cleanLine block.text = "" := by
  have shown : Text.trim block.text = block.text := by
    apply Text.trim_eq_self
    · intro c first
      obtain ⟨opening, listed, inside, blank⟩ := block
      obtain rfl | rfl : opening = "/*" ∨ opening = "/**" := by simpa using listed
      all_goals
        obtain rfl : '/' = c := by simpa [EmptyBlock.text] using first
        decide
    · intro c last
      obtain rfl : '/' = c := by simpa [EmptyBlock.text] using last
      decide
  obtain ⟨opening, listed, inside, blank⟩ := block
  refine cleanLine_of_opened blank shown ?_
  obtain rfl | rfl : opening = "/*" ∨ opening = "/**" := by simpa using listed
  · refine findSome?_openings_star ?_
    cases some : inside.toList with
    | nil =>
      obtain rfl := String.toList_eq_nil_iff.mp some
      exact absurd rfl apart
    | cons c rest =>
      have visible : isBlankChar c = true := List.all_eq_true.mp blank c (by simp [some])
      rw [String.toList_append, some]
      rintro same
      obtain rfl : c = '*' := by simpa using same
      exact absurd visible (by decide)
  · exact findSome?_openings_stars _

/-- A block stands on one line, or white space lines stand between the line that opens it and the
line that closes it. -/
theorem EmptyBlock.lines_text (block : EmptyBlock) :
    Text.lines block.text = [block.text] ∨
      ∃ first others last, Text.lines block.text =
          (block.opening ++ first) :: others ++ [last ++ "*/"] ∧
        ∀ line ∈ last :: first :: others, Text.isBlank line = true := by
  obtain ⟨opening, listed, inside, blank⟩ := block
  have plain : ∀ opening ∈ ["/*", "/**"], opening.toList ≠ [] ∧ '\n' ∉ opening.toList ∧
      opening.toList.getLast? ≠ some '\r' := by decide
  obtain ⟨visible, single, alone⟩ := plain opening listed
  obtain ⟨others, last, cut, parts, whole⟩ :=
    Chars.exists_lines_append inside.toList (List.cons_ne_nil '*' ['/']) (by decide)
  have front := Chars.lines_append visible single (inside.toList ++ ['*', '/']) (absurd · alone)
  have chars : (EmptyBlock.text ⟨opening, listed, inside, blank⟩).toList =
      opening.toList ++ (inside.toList ++ ['*', '/']) := by simp [EmptyBlock.text]
  rw [cut, ← chars] at front
  unfold Text.lines
  rw [front]
  cases others with
  | nil =>
    left
    rw [whole rfl]
    simp [EmptyBlock.text]
  | cons first others =>
    right
    refine ⟨String.ofList first, others.map String.ofList, String.ofList last, ?_, ?_⟩
    · simp
    · have blanks : ∀ line ∈ last :: first :: others, Text.isBlank (String.ofList line) = true := by
        intro line member
        rw [Text.isBlank, String.toList_ofList]
        exact List.all_eq_true.mpr fun c inside =>
          List.all_eq_true.mp blank c (parts line member inside)
      simpa using blanks

/-- Nothing is left of a block with nothing but white space in it, unless the slash that closes it
follows the star that opens it: then this slash is left. -/
theorem clean_emptyBlock (block : EmptyBlock) :
    clean block.text = if block.text = "/**/" then "/" else "" := by
  split
  · rename_i minimal
    rw [minimal]
    decide +kernel
  · rename_i apart
    apply clean_eq_empty
    obtain one | ⟨first, others, last, more, blank⟩ := block.lines_text
    · rw [one]
      simpa using block.cleanLine_text apart
    · have opened : ∀ opening ∈ ["/*", "/**"], cleanLine opening = "" := by decide +kernel
      have closed : cleanLine "*/" = "" := by decide +kernel
      simp only [List.forall_mem_cons] at blank
      obtain ⟨ofLast, ofFirst, ofOthers⟩ := blank
      rw [more]
      simp only [List.cons_append, List.forall_mem_cons, List.forall_mem_append]
      refine ⟨?_, fun line listed => ?_, ?_, nofun⟩
      · rw [cleanLine_append_blank ofFirst]
        exact opened _ block.listed
      · have empty := cleanLine_append (ofOthers line listed) ""
        rw [String.append_empty] at empty
        rw [empty]
        decide +kernel
      · rw [cleanLine_append ofLast]
        exact closed

end Comment

end CodeAtlas
