import CodeAtlas.Proofs.Grammar.Annotations
import CodeAtlas.Proofs.Outline.Ancestors
import CodeAtlas.Proofs.Outline.Members

/-!
# Parameters of listed symbols

A listed symbol has the parameters and the return type of the node that it is described at.
Outside C++ they all have names, if the tree shows text where names stand. Where the node of a
type holds the type alone, the type is listed as it is written, unless it begins with a colon
or an arrow: that is taken for the mark of an annotation.
-/

namespace CodeAtlas

namespace Outline

variable {source : String}

/-! ## Names -/

/-- The parameters of a listed symbol are those of the node it is described at. -/
theorem parameters_of_mem_symbols {grammar : Grammar} {tree : Node} {symbol : Symbol}
    (listed : symbol ∈ symbols grammar source tree) :
    ∃ node ∈ tree.preorder, symbol.parameters = grammar.parameters source node := by
  obtain ⟨place, member, found, parent?, described, rfl⟩ := mem_symbols listed
  obtain ⟨_, header⟩ := describe_eq_some described
  refine ⟨place.node, Place.node_mem_preorder member, ?_⟩
  rw [placeUnder_parameters, header.parameters]

/-- In a legible tree no parameter has a blank name, in every language but C++. There the name
is blank exactly when the entry that the parameter is read from is named by nothing but marks of
pointers and references. -/
theorem parameters_named (language : Language) (source : String) (tree : Node)
    (legible : tree.Legible source) :
    ∀ symbol ∈ symbols language.grammar source tree, ∀ parameter ∈ symbol.parameters,
      (language ≠ .cpp → Text.trim parameter.name ≠ "") ∧
      (language = .cpp → ∃ entry ∈ tree.preorder, ∃ written,
        fieldParameter? source entry = some written ∧
        parameter = { written with name := parameter.name } ∧
        (Text.trim parameter.name = "" ↔ Grammar.Cpp.OnlyMarks written.name)) := by
  intro symbol listed parameter member
  obtain ⟨node, inside, header⟩ := parameters_of_mem_symbols listed
  rw [header] at member
  refine ⟨fun other => ?_, ?_⟩
  · rw [ne_eq, Text.trim_eq_empty_iff, Bool.not_eq_true]
    exact Language.visibleParameters other source tree legible node inside parameter member
  · rintro rfl
    obtain ⟨entry, below, written, found, rfl⟩ := Grammar.Cpp.exists_written member
    refine ⟨entry, Node.preorder_subset inside below, written, found, rfl, ?_⟩
    rw [← Grammar.Cpp.unmarked_eq_empty_iff, Grammar.Cpp.unmarked, Text.trim_trim]

/-- A function in C++ with a pointer that has no name and a reference that has one. -/
def unnamedText : String := "void f(int *, int &r) \x7b\x7d"

/-- The tree of that function. -/
def unnamedTree : Node :=
  .mk "translation_unit" true "" 0 24
    [.mk "function_definition" true "" 0 24
      [.mk "primitive_type" true "type" 0 4 [],
       .mk "function_declarator" true "declarator" 5 21
        [.mk "identifier" true "declarator" 5 6 [],
         .mk "parameter_list" true "parameters" 6 21
          [.mk "(" false "" 6 7 [],
           .mk "parameter_declaration" true "" 7 12
            [.mk "primitive_type" true "type" 7 10 [],
             .mk "abstract_pointer_declarator" true "declarator" 11 12
              [.mk "*" false "" 11 12 []]],
           .mk "," false "" 12 13 [],
           .mk "parameter_declaration" true "" 14 20
            [.mk "primitive_type" true "type" 14 17 [],
             .mk "reference_declarator" true "declarator" 18 20
              [.mk "&" false "" 18 19 [],
               .mk "identifier" true "" 19 20 []]],
           .mk ")" false "" 20 21 []]],
       .mk "compound_statement" true "body" 22 24
        [.mk "\x7b" false "" 22 23 [],
         .mk "\x7d" false "" 23 24 []]]]

/-- Every node of the tree covers text, and still the pointer is listed with an empty name. -/
theorem parameters_named_pointer :
    (∀ node ∈ unnamedTree.preorder, node.start < node.stop) ∧
    (symbols Language.cpp.grammar unnamedText unnamedTree).map (fun symbol =>
      symbol.parameters.map fun parameter => (parameter.name, parameter.typeText)) =
        [[("", some "int"), ("r", some "int")]] := by
  constructor
  · decide
  · rw [symbols_of_sorted (by decide +kernel)]
    decide +kernel

/-- A function in Python with a typed parameter that takes the rest of the arguments. -/
def typedText : String := "def f(*a: int): 0"

/-- The tree of that function. -/
def typedTree : Node :=
  .mk "module" true "" 0 17
    [.mk "function_definition" true "" 0 17
      [.mk "def" false "" 0 3 [],
       .mk "identifier" true "name" 4 5 [],
       .mk "parameters" true "parameters" 5 14
        [.mk "(" false "" 5 6 [],
         .mk "typed_parameter" true "" 6 13
          [.mk "list_splat_pattern" true "" 6 8
            [.mk "*" false "" 6 7 [],
             .mk "identifier" true "" 7 8 []],
           .mk ":" false "" 8 9 [],
           .mk "type" true "type" 10 13 [.mk "identifier" true "" 10 13 []]],
         .mk ")" false "" 13 14 []],
       .mk ":" false "" 14 15 [],
       .mk "block" true "body" 16 17
        [.mk "expression_statement" true "" 16 17 [.mk "integer" true "" 16 17 []]]]]

/-- Both trees are legible. The parameter in Python has a name, and those in C++ lack one exactly
when they are written with nothing but marks. -/
theorem parameters_named_typed :
    typedTree.Legible typedText ∧ unnamedTree.Legible unnamedText ∧
    (∀ symbol ∈ symbols Language.python.grammar typedText typedTree,
      ∀ parameter ∈ symbol.parameters, Text.trim parameter.name ≠ "") ∧
    ∀ symbol ∈ symbols Language.cpp.grammar unnamedText unnamedTree,
      ∀ parameter ∈ symbol.parameters, ∃ entry ∈ unnamedTree.preorder, ∃ written,
        fieldParameter? unnamedText entry = some written ∧
        parameter = { written with name := parameter.name } ∧
        (Text.trim parameter.name = "" ↔ Grammar.Cpp.OnlyMarks written.name) := by
  have typed : typedTree.Legible typedText := by decide +kernel
  have unnamed : unnamedTree.Legible unnamedText := by decide +kernel
  refine ⟨typed, unnamed, fun symbol listed parameter member => ?_,
    fun symbol listed parameter member => ?_⟩
  · exact (parameters_named .python typedText typedTree typed symbol listed parameter member).1
      (by decide)
  · exact (parameters_named .cpp unnamedText unnamedTree unnamed symbol listed parameter member).2
      rfl

/-! ## Types -/

open Grammar (TypedEntry plainTyped)

/-- Where nodes of types hold the type alone, a symbol has a parameter for every entry with a
type, listed with that type as it is written. A symbol in Rust has the type that it returns as
it is written. Both lose a mark in front, and are as they are written exactly without one. -/
theorem types_as_written {language : Language} (plain : language ∈ plainTyped) {place : Place}
    {found : Symbol} (described : describe language.grammar source place = some found)
    (parent? : Option Symbol) :
    (∀ list ∈ language.grammar.parameterList place.node, ∀ entry ∈ list.children,
      entry.named = true → entry.isComment = false →
      ∀ type, TypedEntry language source entry type →
        ∃ parameter ∈ (placeUnder parent? found).parameters,
          (∀ before, language.grammar.parameter source before entry = [parameter]) ∧
          ∃ annotation, parameter.typeText = some annotation ∧
            WithoutMark (type.text source) annotation) ∧
    (language = .rust → ∀ type ∈ place.node.child? "return_type",
      Text.isBlank (type.text source) = false →
        ((placeUnder parent? found).returnType = some (Text.trim (type.text source)) ↔
          ¬IsMarked (type.text source)) ∧
        ∃ annotation,
          (placeUnder parent? found).returnType = (some annotation).filter (· ≠ "") ∧
          WithoutMark (type.text source) annotation) := by
  obtain ⟨_, header⟩ := describe_eq_some described
  rw [placeUnder_parameters, placeUnder_returnType, header.parameters, header.returnType]
  constructor
  · intro list isList entry member named code type entered
    obtain ⟨parameter, declares, typeText⟩ := entered.exists_parameter plain
    refine ⟨parameter, ?_, declares, _, typeText, stripAnnotation_withoutMark _⟩
    rw [Grammar.parameters_of_plainTyped plain, Option.mem_def.mp isList]
    refine mem_listParameters member named code fun before => ?_
    rw [declares before]
    exact List.mem_singleton_self parameter
  · rintro rfl type returned visible
    have stripped := stripAnnotation_withoutMark (type.text source)
    have trimmed : Text.trim (type.text source) ≠ "" := by
      rw [ne_eq, Text.trim_eq_empty_iff, visible]
      decide
    have read : Language.rust.grammar.returnType source place.node =
        (some <| stripAnnotation (type.text source)) := Grammar.Rust.returnType_eq_some returned
    rw [read]
    refine ⟨?_, stripAnnotation (type.text source), rfl, stripped⟩
    rw [← stripped.whole, Option.filter_eq_some_iff, Option.some.injEq]
    exact and_iff_left (by simp [trimmed])

/-- A function in Rust with a path from the root as the type of a parameter and as the type it
returns. -/
def pathText : String := "fn f(x: ::A, y: B) -> ::A \x7b\x7d"

/-- The type that the first parameter has. -/
def pathType : Node :=
  .mk "scoped_type_identifier" true "type" 8 11
    [.mk "::" false "" 8 10 [],
     .mk "type_identifier" true "name" 10 11 []]

/-- The first parameter. -/
def pathEntry : Node :=
  .mk "parameter" true "" 5 11
    [.mk "identifier" true "pattern" 5 6 [],
     .mk ":" false "" 6 7 [],
     pathType]

/-- The type that the second parameter has. -/
def nameType : Node := .mk "type_identifier" true "type" 16 17 []

/-- The second parameter. -/
def nameEntry : Node :=
  .mk "parameter" true "" 13 17
    [.mk "identifier" true "pattern" 13 14 [],
     .mk ":" false "" 14 15 [],
     nameType]

/-- The list of both. -/
def pathList : Node :=
  .mk "parameters" true "parameters" 4 18
    [.mk "(" false "" 4 5 [],
     pathEntry,
     .mk "," false "" 11 12 [],
     nameEntry,
     .mk ")" false "" 17 18 []]

/-- The type that the function returns. -/
def pathReturn : Node :=
  .mk "scoped_type_identifier" true "return_type" 22 25
    [.mk "::" false "" 22 24 [],
     .mk "type_identifier" true "name" 24 25 []]

/-- The function in its tree. -/
def pathFunction : Node :=
  .mk "function_item" true "" 0 28
    [.mk "fn" false "" 0 2 [],
     .mk "identifier" true "name" 3 4 [],
     pathList,
     .mk "->" false "" 19 21 [],
     pathReturn,
     .mk "block" true "body" 26 28
      [.mk "\x7b" false "" 26 27 [],
       .mk "\x7d" false "" 27 28 []]]

/-- The place of the function in the tree of the text. -/
def pathPlace : Place :=
  ⟨pathFunction, [], [⟨.mk "source_file" true "" 0 28 [pathFunction], []⟩]⟩

/-- The path is written with two colons, and is listed with one. -/
theorem types_as_written_path :
    TypedEntry .rust pathText pathEntry pathType ∧
    Text.trim (pathType.text pathText) = "::A" ∧ Text.trim (pathReturn.text pathText) = "::A" ∧
    (describe Language.rust.grammar pathText pathPlace).map (fun found =>
      (found.parameters.map Parameter.typeText, found.returnType)) =
        some ([some ":A", some "B"], some ":A") := by
  refine ⟨⟨rfl, ?_, ?_, ?_, nofun⟩, ?_⟩
  all_goals decide +kernel

/-- The other type is listed as it is written, and the paths are listed without a mark. -/
theorem types_as_written_name :
    ∃ found, describe Language.rust.grammar pathText pathPlace = some found ∧
      (∃ parameter ∈ found.parameters, ∃ annotation, parameter.typeText = some annotation ∧
        WithoutMark (pathType.text pathText) annotation) ∧
      (∃ parameter ∈ found.parameters, ∃ annotation, parameter.typeText = some annotation ∧
        WithoutMark (nameType.text pathText) annotation) ∧
      ∃ annotation, found.returnType = (some annotation).filter (· ≠ "") ∧
        WithoutMark (pathReturn.text pathText) annotation := by
  obtain ⟨found, described⟩ : ∃ found,
      describe Language.rust.grammar pathText pathPlace = some found :=
    Option.isSome_iff_exists.mp (by decide +kernel)
  obtain ⟨entries, returned⟩ := types_as_written (by decide) described none
  have path : TypedEntry .rust pathText pathEntry pathType :=
    ⟨rfl, by decide, by decide +kernel, by decide +kernel, nofun⟩
  have name : TypedEntry .rust pathText nameEntry nameType :=
    ⟨rfl, by decide, by decide +kernel, by decide +kernel, nofun⟩
  obtain ⟨first, firstListed, _, firstWritten⟩ :=
    entries pathList rfl pathEntry (by simp [pathList, Node.children]) rfl (by decide) pathType path
  obtain ⟨second, secondListed, _, secondWritten⟩ :=
    entries pathList rfl nameEntry (by simp [pathList, Node.children]) rfl (by decide) nameType name
  obtain ⟨_, returns⟩ := returned rfl pathReturn rfl (by decide +kernel)
  exact ⟨found, described, ⟨first, firstListed, firstWritten⟩,
    ⟨second, secondListed, secondWritten⟩, returns⟩

end Outline

end CodeAtlas
