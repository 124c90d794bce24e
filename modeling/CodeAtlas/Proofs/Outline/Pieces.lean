import CodeAtlas.Proofs.Outline.Ancestors
import CodeAtlas.Proofs.Outline.Members
import CodeAtlas.Proofs.Tree.Apart
import CodeAtlas.Proofs.Tree.Fits

/-!
# Symbols are pieces of their text

A listed symbol is a piece of its source: its range is a slice of the text that is not
empty, its lines are counted by the line feeds before its ends, and its name and its
signature stand in the slice. They are cut from nodes below the declaration, and the extent
that is reported is around all of them. Two symbols cover pieces that are nested or apart,
as the nodes of the tree are.
-/

namespace CodeAtlas

namespace Outline

/-- A symbol covers a piece of its source, and its name and signature stand in the piece. -/
structure PieceOf (source : String) (symbol : Symbol) (before code after : List Char) :
    Prop where
  parts : source.toList = before ++ code ++ after
  start : symbol.startByte = Chars.byteSize before
  stop : symbol.endByte = Chars.byteSize (before ++ code)
  covers : symbol.startByte < symbol.endByte
  fits : symbol.endByte ≤ Text.byteSize source
  slice : Text.slice? symbol.startByte symbol.endByte source = some (String.ofList code)
  startLine : symbol.startLine = 1 + before.count '\n'
  endLine : symbol.endLine = 1 + (before ++ code).count '\n'
  ordered : 1 ≤ symbol.startLine ∧ symbol.startLine ≤ symbol.endLine
  named : symbol.name ≠ ""
  nameStart : ∀ c ∈ symbol.name.toList.head?, isBlankChar c = false
  nameEnd : ∀ c ∈ symbol.name.toList.getLast?, isBlankChar c = false
  name : symbol.name.toList <:+: code
  signatureEnd : ∀ c ∈ symbol.signature.toList.getLast?, isBlankChar c = false
  signature : symbol.signature.toList <:+: code

variable {grammar : Grammar} {source : String} {tree node : Node} {place : Place}
  {symbol : Symbol} {before code after : List Char}

/-! ## Signatures -/

/-- A signature does not end with white space. -/
theorem signature_end (source : String) (node : Node) (body? : Option Node) :
    ∀ c ∈ (signature source node body?).toList.getLast?, isBlankChar c = false := by
  intro c last
  unfold signature Text.trimEnd at last
  split at last <;>
  · rw [String.toList_ofList] at last
    exact Chars.isBlankChar_of_getLast?_trimEnd last

/-- A signature is the beginning of the piece that its declaration covers. -/
theorem signature_initial (wellFormed : tree.WellFormed) (fits : tree.Fits source)
    (member : node ∈ tree.preorder) (covers : node.Covers source before code after)
    {body? : Option Node} (below : ∀ body ∈ body?, body ∈ node.preorder) :
    (signature source node body?).toList <+: code := by
  unfold signature
  split
  · rename_i body found
    have inner := below body (Option.filter_eq_some_iff.mp found).1
    have kept := (wellFormed.of_mem_preorder member).2
    obtain ⟨_, _, _, around⟩ := fits.exists_covers (Node.preorder_subset member inner)
    obtain ⟨header, slice, first⟩ := covers.header around (kept.of_mem_preorder inner).1
    rw [slice, Option.getD_some]
    refine (Text.trimEnd_initial _).trans ?_
    rwa [String.toList_ofList]
  · rw [← covers.text]
    exact (Text.trimEnd_initial _).trans (Text.firstLine_initial _)

/-! ## Pieces -/

/-- The name of a declaration stands in the piece that its extent covers. -/
theorem name_infix {language : Language} (wellFormed : tree.WellFormed)
    (fits : tree.Fits source) (member : place ∈ tree.allPlaces) {written : String}
    (named : language.grammar.name source place.node = some written)
    (covers : (language.grammar.extent place).Covers source before code after) :
    (Text.trim written).toList <:+: code := by
  obtain ⟨listed, around⟩ := language.extentsAround tree place member
  obtain ⟨inner, below, part⟩ := language.namesBelow source place.node written named
  have within := Node.preorder_subset around below
  obtain ⟨_, _, _, text⟩ := fits.exists_covers (Node.preorder_subset listed within)
  have inside := ((wellFormed.of_mem_preorder listed).2.of_mem_preorder within).1
  rw [text.text] at part
  unfold Text.trim
  rw [String.toList_ofList]
  exact (Chars.trim_infix _).trans (part.trans (text.infix_of_inside covers inside))

/-- The signature of a declaration stands in the piece that its extent covers. -/
theorem signature_infix {language : Language} (wellFormed : tree.WellFormed)
    (fits : tree.Fits source) (member : place ∈ tree.allPlaces)
    (covers : (language.grammar.extent place).Covers source before code after) :
    (signature source place.node (language.grammar.body place.node)).toList <:+: code := by
  obtain ⟨listed, around⟩ := language.extentsAround tree place member
  have declared := Place.node_mem_preorder member
  obtain ⟨_, _, _, own⟩ := fits.exists_covers declared
  have inside := ((wellFormed.of_mem_preorder listed).2.of_mem_preorder around).1
  have first := signature_initial wellFormed fits declared own
    fun body found => language.bodiesBelow place.node body found
  exact first.isInfix.trans (own.infix_of_inside covers inside)

/-- What is described at a place of a well-formed tree of a text is a piece of the text. -/
theorem describe_piece {language : Language} (wellFormed : tree.WellFormed)
    (fits : tree.Fits source) (member : place ∈ tree.allPlaces)
    (described : describe language.grammar source place = some symbol) :
    ∃ before code after, PieceOf source symbol before code after := by
  obtain ⟨written, found⟩ := describe_eq_some described
  obtain ⟨before, code, after, covers⟩ :=
    fits.exists_covers (language.extentsAround tree place member).1
  obtain ⟨start, stop⟩ := Prod.mk.inj found.range
  have name : symbol.name.toList <:+: code := by
    rw [found.name]
    exact name_infix wellFormed fits member found.named covers
  have nonempty : 0 < Chars.byteSize code := by
    rw [Nat.pos_iff_ne_zero, ne_eq, Chars.byteSize_eq_zero]
    rintro rfl
    exact found.visible (String.toList_eq_nil_iff.mp (List.infix_nil.mp name))
  have startLine : symbol.startLine = 1 + before.count '\n' := by
    rw [found.startLine, covers.startRow, Nat.add_comm]
  have endLine : symbol.endLine = 1 + (before ++ code).count '\n' := by
    rw [found.endLine, covers.stopRow, Nat.add_comm]
  have sizes : Chars.byteSize (before ++ code) = Chars.byteSize before + Chars.byteSize code :=
    Chars.byteSize_append before code
  have starts := covers.start
  have stops := covers.stop
  refine ⟨before, code, after, ?_⟩
  exact {
    parts := covers.parts
    start := by omega
    stop := by omega
    covers := by omega
    fits := by
      rw [Text.byteSize, covers.parts, Chars.byteSize_append]
      omega
    slice := by
      rw [start, stop]
      exact covers.slice
    startLine
    endLine
    ordered := by
      rw [startLine, endLine, List.count_append]
      omega
    named := found.visible
    nameStart := by
      rw [found.name, Text.trim, String.toList_ofList]
      exact fun _ => Chars.isBlankChar_of_head?_trim
    nameEnd := by
      rw [found.name, Text.trim, String.toList_ofList]
      exact fun _ => Chars.isBlankChar_of_getLast?_trimEnd
    name
    signatureEnd := by
      rw [found.signature]
      exact signature_end source place.node _
    signature := by
      rw [found.signature]
      exact signature_infix wellFormed fits member covers }

/-- Placing a symbol keeps its piece. -/
theorem PieceOf.placeUnder (piece : PieceOf source symbol before code after)
    (parent? : Option Symbol) : PieceOf source (placeUnder parent? symbol) before code after := by
  obtain ⟨parts, start, stop, covers, fits, slice, startLine, endLine, ordered, named, nameStart,
    nameEnd, name, signatureEnd, signature⟩ := piece
  constructor <;>
    simpa only [placeUnder_name, placeUnder_startByte, placeUnder_endByte, placeUnder_startLine,
      placeUnder_endLine, placeUnder_signature]

/-- Every symbol of a well-formed tree of a text, in every language, is a piece of the text:
its range is a slice that is not empty, its lines are counted by the line feeds before its
ends, its name is neither empty nor surrounded by white space and stands in the slice, and
its signature does not end with white space and stands in the slice as well. The ranges of
two symbols are apart, or one lies inside the other. -/
theorem symbols_are_pieces (language : Language) (source : String) (tree : Node)
    (wellFormed : tree.WellFormed) (fits : tree.Fits source) :
    (∀ symbol ∈ symbols language.grammar source tree,
      ∃ before code after, PieceOf source symbol before code after) ∧
    ∀ first ∈ symbols language.grammar source tree,
      ∀ second ∈ symbols language.grammar source tree,
        first.endByte ≤ second.startByte ∨ second.endByte ≤ first.startByte ∨
        (first.startByte ≤ second.startByte ∧ second.endByte ≤ first.endByte) ∨
        (second.startByte ≤ first.startByte ∧ first.endByte ≤ second.endByte) := by
  constructor
  · intro placed listed
    obtain ⟨place, member, symbol, parent?, described, rfl⟩ := mem_symbols listed
    obtain ⟨before, code, after, piece⟩ := describe_piece wellFormed fits member described
    exact ⟨before, code, after, piece.placeUnder parent?⟩
  · -- Both ranges are those of nodes of the tree.
    have extent (placed : Symbol) (listed : placed ∈ symbols language.grammar source tree) :
        ∃ node ∈ tree.preorder, placed.startByte = node.start ∧ placed.endByte = node.stop := by
      obtain ⟨place, member, symbol, parent?, described, rfl⟩ := mem_symbols listed
      obtain ⟨_, found⟩ := describe_eq_some described
      obtain ⟨start, stop⟩ := Prod.mk.inj found.range
      exact ⟨_, (language.extentsAround tree place member).1, by simpa using start,
        by simpa using stop⟩
    intro first left second right
    obtain ⟨_, here, firstStart, firstStop⟩ := extent first left
    obtain ⟨_, there, secondStart, secondStop⟩ := extent second right
    have related := wellFormed.nested_or_apart here there
    simp only [Node.Inside] at related
    omega

/-- A decorated function in Python. -/
def decoratedText : String := "@d\ndef f():\n  0\n"

/-- The tree of that function. -/
def decoratedTree : Node :=
  .mk "module" true "" 0 16
    [.mk "decorated_definition" true "" 0 15
      [.mk "decorator" true "" 0 2
        [.mk "@" false "" 0 1 [],
         .mk "identifier" true "" 1 2 []],
       .mk "function_definition" true "definition" 3 15
        [.mk "def" false "" 3 6 [],
         .mk "identifier" true "name" 7 8 [],
         .mk "parameters" true "parameters" 8 10
          [.mk "(" false "" 8 9 [],
           .mk ")" false "" 9 10 []],
         .mk ":" false "" 10 11 [],
         .mk "block" true "body" 14 15
          [.mk "expression_statement" true "" 14 15 [.mk "integer" true "" 14 15 []]]]]]

/-- The function is reported from its decorator on, and its name and signature stand
there. -/
theorem symbols_are_pieces_decorated :
    (symbols Language.python.grammar decoratedText decoratedTree).map (fun symbol =>
      (symbol.name, symbol.signature, symbol.range)) = [("f", "def f():", (0, 15))] ∧
    ∀ symbol ∈ symbols Language.python.grammar decoratedText decoratedTree,
      ∃ before code after, PieceOf decoratedText symbol before code after :=
  ⟨by decide +kernel,
    (symbols_are_pieces .python decoratedText decoratedTree (by decide) (by decide)).1⟩

end Outline

end CodeAtlas
