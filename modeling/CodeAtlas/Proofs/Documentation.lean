import CodeAtlas.Grammar.Builtin
import CodeAtlas.Proofs.Comments
import CodeAtlas.Proofs.Text.Joined
import CodeAtlas.Proofs.Tree.Preorder

/-!
# Documentation

What documents a declaration stands in a block right above it, of accepted comments and of
attributes. The block has no gap and reaches as far up as it can, so that the documentation is
what its comments say, and only its first row can be shared with other nodes. A comment that says
nothing documents nothing.
-/

namespace CodeAtlas

namespace Comment

variable {source : String} {accept : String → Bool} {node next : Node}
  {before block rest : List Node}

/-! ## Blocks above a node -/

/-- Whether a node may stand in a block: an accepted comment, or an attribute. -/
def documents (source : String) (accept : String → Bool) (node : Node) : Bool :=
  if node.isComment then accept (Text.trimStart (node.text source))
  else transparentKinds.contains node.kind

/-- Whether a node is neither a comment nor an attribute. -/
def isOther (node : Node) : Bool := !node.isComment && !transparentKinds.contains node.kind

/-- Whether no row lies between the end of a node and the start of a later one. -/
def Adjoins (source : String) (later earlier : Node) : Prop :=
  later.startRow source ≤ earlier.stopRow source + 1

/-- Adjoining is decidable. -/
instance (source : String) (later earlier : Node) : Decidable (Adjoins source later earlier) :=
  inferInstanceAs (Decidable (_ ≤ _))

/-- The block above a node, nearest first: of the siblings before the node, as many as adjoin each
other and may stand in a block. The rest begins where one does not. -/
structure BlockAbove (source : String) (accept : String → Bool) (node : Node)
    (before block rest : List Node) : Prop where
  parts : before = block ++ rest
  members : ∀ member ∈ block, documents source accept member = true
  adjoins : (node :: block).IsChain (Adjoins source)
  ends : ∀ next ∈ rest.head?,
    Adjoins source ((node :: block).getLast (List.cons_ne_nil _ _)) next →
      documents source accept next = false

/-- What may stand in a block is a comment or an attribute. -/
theorem isOther_of_documents (taken : documents source accept node = true) :
    isOther node = false := by
  unfold documents at taken
  unfold isOther
  split at taken
  · rename_i comment
    rw [comment]
    rfl
  · rw [taken]
    exact Bool.and_false _

/-- The next sibling is taken when it adjoins the node and may stand in a block, and only then is
there more to collect. -/
theorem collect_cons (source : String) (accept : String → Bool) (node next : Node)
    (before : List Node) :
    collect source accept (node.startRow source) (next :: before) =
      if Adjoins source node next ∧ documents source accept next = true then
        [next].filter Node.isComment ++ collect source accept (next.startRow source) before
      else [] := by
  rw [collect]
  by_cases adjoins : Adjoins source node next
  · rw [if_neg (Nat.not_lt.mpr adjoins)]
    cases comment : next.isComment <;> simp [documents, comment, adjoins]
  · rw [if_pos (Nat.lt_of_not_le adjoins), if_neg (adjoins ·.1)]

/-- A block grows by a node below it. -/
theorem BlockAbove.cons (above : BlockAbove source accept next before block rest)
    (adjoins : Adjoins source node next) (taken : documents source accept next = true) :
    BlockAbove source accept node (next :: before) (next :: block) rest where
  parts := congrArg (next :: ·) above.parts
  members := List.forall_mem_cons.mpr ⟨taken, above.members⟩
  adjoins := List.IsChain.cons_cons adjoins above.adjoins
  ends := above.ends

/-- There is a block above every node, and what is collected are its comments. -/
theorem exists_blockAbove (source : String) (accept : String → Bool) (node : Node)
    (before : List Node) :
    ∃ block rest, BlockAbove source accept node before block rest ∧
      collect source accept (node.startRow source) before = block.filter Node.isComment := by
  -- The block above the next sibling grows by this sibling, or ends in front of it.
  induction before generalizing node with
  | nil => exact ⟨[], [], ⟨rfl, nofun, List.IsChain.singleton _, nofun⟩, rfl⟩
  | cons next before ih =>
    rw [collect_cons]
    split
    · rename_i taken
      obtain ⟨block, rest, above, collected⟩ := ih next
      refine ⟨next :: block, rest, above.cons taken.1 taken.2, ?_⟩
      rw [collected, ← List.filter_append]
      rfl
    · rename_i other
      refine ⟨[], next :: before, ⟨rfl, nofun, List.IsChain.singleton _, ?_⟩, rfl⟩
      rintro first ⟨⟩ adjoins
      exact Bool.eq_false_iff.mpr fun taken => other ⟨adjoins, taken⟩

/-! ## What the comments say -/

/-- What comments say, each on lines of its own; none when they say nothing. -/
def contents (source : String) (comments : List Node) : Option String :=
  let said := Text.join "\n" ((comments.map fun node => clean (node.text source)).filter (· ≠ ""))
  if said = "" then none else some said

/-- Comments say nothing exactly when nothing is left of any of them. -/
theorem contents_eq_none_iff {comments : List Node} :
    contents source comments = none ↔
      ∀ comment ∈ comments, clean (comment.text source) = "" := by
  have visible : ∀ piece ∈ (comments.map fun node => clean (node.text source)).filter (· ≠ ""),
      piece ≠ "" := by simp
  unfold contents
  simp only [ite_eq_left_iff, reduceCtorEq, imp_false, not_not]
  constructor
  · intro none
    have nothing := not_imp_not.mp (Text.join_ne_empty · visible) none
    simpa [List.filter_eq_nil_iff] using nothing
  · intro silent
    have nothing : (comments.map fun node => clean (node.text source)).filter (· ≠ "") = [] := by
      simpa [List.filter_eq_nil_iff] using silent
    rw [nothing]
    rfl

variable {tree : Node} {anchor : Place}

/-- The documentation at a place of a well-formed tree is what the comments of the block above it
say. Of the nodes of the block, those below its first row start on no row on which an earlier
sibling ends that is neither a comment nor an attribute. -/
theorem documented_by_block (wellFormed : tree.WellFormed) (member : anchor ∈ tree.allPlaces)
    (source : String) (accept : String → Bool) :
    ∃ block rest, BlockAbove source accept anchor.node anchor.before block rest ∧
      docComment? source accept anchor =
        contents source (block.filter Node.isComment).reverse ∧
      ∀ nearer comment farther, block = nearer ++ comment :: farther →
        (∃ first ∈ farther, first.startRow source < comment.startRow source) →
          ∀ other ∈ farther ++ rest, isOther other = true →
            other.stopRow source ≠ comment.startRow source := by
  obtain ⟨block, rest, above, collected⟩ :=
    exists_blockAbove source accept anchor.node anchor.before
  refine ⟨block, rest, above, by rw [← collected]; rfl, ?_⟩
  rintro nearer comment farther split ⟨first, listed, higher⟩ other found isOther same
  have inBlock : farther ⊆ block := by
    rw [split]
    exact List.subset_append_of_subset_right _ (List.subset_cons_self _ _)
  obtain within | beyond := List.mem_append.mp found
  · rw [isOther_of_documents (above.members other (inBlock within))] at isOther
    cases isOther
  · -- What is not in the block ends before all of the block begins, so before its first row.
    have sorted := (Place.before_sorted wellFormed member).of_cons
    rw [above.parts, List.pairwise_append] at sorted
    have order := Chars.row_mono source.toList (sorted.2.2 first (inBlock listed) other beyond)
    exact absurd same (Nat.ne_of_lt (Nat.lt_of_le_of_lt order higher))

/-- A function in Go with a comment above it. The token behind the package clause covers the line
ends up to the comment. -/
def goText : String := "package main\n\n// Add adds values.\nfunc Add() \x7b\x7d\n"

/-- The package clause and the token behind it, nearest first. -/
def goBefore : List Node :=
  [.mk "\n" false "" 12 14 [],
   .mk "package_clause" true "" 0 12
    [.mk "package" false "" 0 7 [],
     .mk "package_identifier" true "" 8 12 []]]

/-- The comment above the function. -/
def goComment : Node := .mk "comment" true "" 14 33 []

/-- The function. -/
def goFunction : Node :=
  .mk "function_declaration" true "" 34 47
    [.mk "func" false "" 34 38 [],
     .mk "identifier" true "name" 39 42 [],
     .mk "parameter_list" true "parameters" 42 44
      [.mk "(" false "" 42 43 [],
       .mk ")" false "" 43 44 []],
     .mk "block" true "body" 45 47
      [.mk "\x7b" false "" 45 46 [],
       .mk "\x7d" false "" 46 47 []]]

/-- The tree of the text. -/
def goTree : Node :=
  .mk "source_file" true "" 0 48
    (goBefore.reverse ++ [goComment, goFunction, .mk "\n" false "" 47 48 []])

/-- The place of the function. -/
def goPlace : Place := ⟨goFunction, goComment :: goBefore, [⟨goTree, []⟩]⟩

/-- The comment documents the function, and starts on the row on which the token before it ends. -/
theorem documented_by_block_lineEnds :
    goTree.WellFormed ∧ goPlace ∈ goTree.allPlaces ∧
      docComment? goText (Text.startsWith "//") goPlace = some "Add adds values." ∧
      goPlace.before = goComment :: goBefore ∧ goComment.text goText = "// Add adds values." ∧
      ∃ other ∈ goBefore, isOther other = true ∧
        other.stopRow goText = goComment.startRow goText := by
  refine ⟨by decide, ?_, by decide +kernel, rfl, by decide +kernel, _, List.mem_cons_self,
    by decide, by decide +kernel⟩
  simp [goTree, goBefore, goPlace, goComment, goFunction, Node.allPlaces, Node.places, siblingPlaces]

/-- A function in Rust with an attribute and two comments above it, the first of them behind an
import. -/
def rustText : String := "use a; /// A\n#[b]\n/// C\nfn f() \x7b\x7d\n"

/-- The function. -/
def rustFunction : Node :=
  .mk "function_item" true "" 24 33
    [.mk "fn" false "" 24 26 [],
     .mk "identifier" true "name" 27 28 [],
     .mk "parameters" true "parameters" 28 30
      [.mk "(" false "" 28 29 [],
       .mk ")" false "" 29 30 []],
     .mk "block" true "body" 31 33
      [.mk "\x7b" false "" 31 32 [],
       .mk "\x7d" false "" 32 33 []]]

/-- What stands before the function, nearest first. -/
def rustBefore : List Node :=
  [.mk "line_comment" true "" 18 23 [],
   .mk "attribute_item" true "" 13 17 [],
   .mk "line_comment" true "" 7 12 [],
   .mk "use_declaration" true "" 0 6 []]

/-- The tree of the text. -/
def rustTree : Node := .mk "source_file" true "" 0 34 (rustBefore.reverse ++ [rustFunction])

/-- The place of the function. -/
def rustPlace : Place := ⟨rustFunction, rustBefore, [⟨rustTree, []⟩]⟩

/-- Both comments document the function, and only the first of them stands on the row of the
import. -/
theorem documented_by_block_attribute :
    rustTree.WellFormed ∧ rustPlace ∈ rustTree.allPlaces ∧
      docComment? rustText (Text.startsWith "///") rustPlace = some "A\nC" ∧
      ∃ block rest, BlockAbove rustText (Text.startsWith "///") rustFunction rustBefore block rest ∧
        contents rustText (block.filter Node.isComment).reverse = some "A\nC" ∧
        ∀ nearer comment farther, block = nearer ++ comment :: farther →
          (∃ first ∈ farther, first.startRow rustText < comment.startRow rustText) →
            ∀ other ∈ farther ++ rest, isOther other = true →
              other.stopRow rustText ≠ comment.startRow rustText := by
  have wellFormed : rustTree.WellFormed := by decide
  have member : rustPlace ∈ rustTree.allPlaces := by
    simp [rustTree, rustBefore, rustPlace, rustFunction, Node.allPlaces, Node.places, siblingPlaces]
  have documented : docComment? rustText (Text.startsWith "///") rustPlace = some "A\nC" := by
    decide +kernel
  obtain ⟨block, rest, above, said, below⟩ :=
    documented_by_block wellFormed member rustText (Text.startsWith "///")
  exact ⟨wellFormed, member, documented, block, rest, above, said.symm.trans documented, below⟩

end Comment

/-! ## Languages -/

namespace Language

/-- Which comments document a declaration, by how they begin: in Python, none. -/
def acceptsComment : Language → String → Bool
  | .python => fun _ => false
  | .go => Text.startsWith "//"
  | .javaScript | .typeScript | .tsx => Text.startsWith "/**"
  | .rust | .java | .cpp | .cSharp => fun text =>
    Text.startsWith "/**" text || Text.startsWith "///" text

/-- The documentation that stands in the body of a declaration: in Python, the string that opens
it. -/
def docInBody (language : Language) (source : String) (node : Node) : Option String :=
  if language = .python then Grammar.Python.docstring source ⟨node, [], []⟩ else none

/-- The comments above a declaration that document it, nearest first. -/
def commentsAbove (language : Language) (source : String) (place : Place) : List Node :=
  let anchor := language.grammar.anchor place
  Comment.collect source language.acceptsComment (anchor.node.startRow source) anchor.before

/-- The documentation of a declaration stands in its body or in the comments above it. -/
theorem docstring_eq (language : Language) (source : String) (place : Place) :
    language.grammar.docstring source place =
      if language = .python then language.docInBody source place.node
      else Comment.contents source (language.commentsAbove source place).reverse := by
  by_cases python : language = .python
  · subst python
    rfl
  · rw [if_neg python]
    -- What the grammar says is the same pass over the siblings, for what the language accepts.
    change _ = Comment.docComment? source language.acceptsComment (language.grammar.anchor place)
    cases language with
    | python => exact absurd rfl python
    | _ =>
      simp only [grammar, acceptsComment, Grammar.ecmaScript, Grammar.rust, Grammar.go,
        Grammar.java, Grammar.cpp, Grammar.cSharp]

/-- No comment is accepted in Python. -/
theorem commentsAbove_python (source : String) (place : Place) :
    Language.python.commentsAbove source place = [] := by
  obtain ⟨block, rest, above, collected⟩ := Comment.exists_blockAbove source
    Language.python.acceptsComment (Language.python.grammar.anchor place).node
    (Language.python.grammar.anchor place).before
  refine collected.trans (List.filter_eq_nil_iff.mpr fun member listed comment => ?_)
  have accepted := above.members member listed
  rw [Comment.documents, if_pos comment] at accepted
  cases accepted

/-- The comments above a declaration document it unless nothing is left of any of them. -/
theorem docstring_eq_docInBody_iff (language : Language) (source : String) (place : Place) :
    language.grammar.docstring source place = language.docInBody source place.node ↔
      ∀ comment ∈ language.commentsAbove source place,
        Comment.clean (comment.text source) = "" := by
  rw [docstring_eq]
  by_cases python : language = .python
  · subst python
    rw [if_pos rfl, commentsAbove_python]
    exact iff_of_true rfl nofun
  · rw [if_neg python, docInBody, if_neg python, Comment.contents_eq_none_iff]
    simp

end Language

namespace Comment

/-- Block comments with nothing but white space in them say nothing and document nothing in any
language, but for the one that is too short to be opened and closed apart: its last slash is
taken for what it says. -/
theorem empty_blocks_undocumented (block : EmptyBlock) (language : Language) (source : String)
    (place : Place) :
    clean block.text = (if block.text = "/**/" then "/" else "") ∧
      ((∀ comment ∈ language.commentsAbove source place,
          ∃ empty : EmptyBlock, comment.text source = empty.text) →
        (language.grammar.docstring source place = language.docInBody source place.node ↔
          ∀ comment ∈ language.commentsAbove source place, comment.text source ≠ "/**/")) := by
  refine ⟨clean_emptyBlock block, fun silent => ?_⟩
  rw [Language.docstring_eq_docInBody_iff]
  refine forall₂_congr fun comment listed => ?_
  obtain ⟨empty, same⟩ := silent comment listed
  rw [same, clean_emptyBlock]
  by_cases short : empty.text = "/**/" <;> simp [short]

/-- A class in Java with two methods, both below comments without content. -/
def silentText : String :=
  "class A \x7b\n/**/\nvoid f() \x7b\x7d\n/***/\n/**\n*/\nvoid g() \x7b\x7d\n\x7d"

/-- A method in its tree. -/
def silentMethod (start : Nat) : Node :=
  .mk "method_declaration" true "" start (start + 11)
    [.mk "void_type" true "type" start (start + 4) [],
     .mk "identifier" true "name" (start + 5) (start + 6) [],
     .mk "formal_parameters" true "parameters" (start + 6) (start + 8)
      [.mk "(" false "" (start + 6) (start + 7) [],
       .mk ")" false "" (start + 7) (start + 8) []],
     .mk "block" true "body" (start + 9) (start + 11)
      [.mk "\x7b" false "" (start + 9) (start + 10) [],
       .mk "\x7d" false "" (start + 10) (start + 11) []]]

/-- What stands before the first method, nearest first. -/
def silentBefore : List Node :=
  [.mk "block_comment" true "" 10 14 [],
   .mk "\x7b" false "" 8 9 []]

/-- What stands between the methods, nearest first. -/
def silentBetween : List Node :=
  [.mk "block_comment" true "" 33 39 [],
   .mk "block_comment" true "" 27 32 []]

/-- The body of the class. -/
def silentBody : Node :=
  .mk "class_body" true "body" 8 53
    (silentBefore.reverse ++ silentMethod 15 :: silentBetween.reverse ++
      [silentMethod 40, .mk "\x7d" false "" 52 53 []])

/-- What stands before the body, nearest first. -/
def silentHead : List Node :=
  [.mk "identifier" true "name" 6 7 [],
   .mk "class" false "" 0 5 []]

/-- The class. -/
def silentClass : Node :=
  .mk "class_declaration" true "" 0 53 (silentHead.reverse ++ [silentBody])

/-- The nodes above the methods. -/
def silentAbove : List Frame :=
  [⟨silentBody, silentHead⟩, ⟨silentClass, []⟩, ⟨.mk "program" true "" 0 53 [silentClass], []⟩]

/-- The place of the first method. -/
def silentFirst : Place := ⟨silentMethod 15, silentBefore, silentAbove⟩

/-- The place of the second method. -/
def silentSecond : Place :=
  ⟨silentMethod 40, silentBetween ++ silentMethod 15 :: silentBefore, silentAbove⟩

/-- The shortest of these comments is left with a slash, which documents the first method. -/
theorem empty_blocks_undocumented_slash :
    ∃ block : EmptyBlock, clean block.text = "/" ∧
      (∀ comment ∈ silentFirst.before, comment.isComment = true →
        comment.text silentText = block.text) ∧
      Language.java.grammar.docstring silentText silentFirst = some "/" := by
  refine ⟨⟨"/*", by decide, "", by decide⟩, ?_⟩
  decide +kernel

/-- Nothing documents the second method. -/
theorem empty_blocks_undocumented_lines :
    clean "/*\r\n\t\n */" = "" ∧
      (∀ comment ∈ Language.java.commentsAbove silentText silentSecond,
        ∃ block : EmptyBlock, comment.text silentText = block.text) ∧
      Language.java.grammar.docstring silentText silentSecond = none := by
  have texts : ∀ comment ∈ Language.java.commentsAbove silentText silentSecond,
      comment.text silentText = "/***/" ∨ comment.text silentText = "/**\n*/" := by
    decide +kernel
  have empty : ∀ comment ∈ Language.java.commentsAbove silentText silentSecond,
      ∃ block : EmptyBlock, comment.text silentText = block.text := by
    intro comment listed
    obtain short | long := texts comment listed
    · exact ⟨⟨"/**", by decide, "", by decide⟩, short⟩
    · exact ⟨⟨"/**", by decide, "\n", by decide⟩, long⟩
  let block : EmptyBlock := ⟨"/*", by decide, "\r\n\t\n ", by decide⟩
  obtain ⟨cleaned, documented⟩ :=
    empty_blocks_undocumented block .java silentText silentSecond
  refine ⟨cleaned.trans (if_neg (by decide)), empty, ?_⟩
  refine (documented empty).mpr fun comment listed same => ?_
  have other := texts comment listed
  rw [same] at other
  exact absurd other (by decide)

end Comment

end CodeAtlas
