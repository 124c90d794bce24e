import CodeAtlas.Grammar.Basic

/-!
# C++ declarations

What a declaration declares stands at the end of a chain of declarators: a pointer,
array or reference declarator holds the next one. A declaration with a function
declarator somewhere in its chain is a function.
-/

namespace CodeAtlas

mutual

/-- A declarator and the declarators nested in it, outermost first. -/
def Node.declarators : Node → List Node
  | node@(.mk kind _ _ _ _ children) =>
    node ::
      match fieldDeclarators children with
      | [] => if kind = "reference_declarator" then firstNamedDeclarators children else []
      | nested => nested

/-- The chain that starts at the first child in the `declarator` field. -/
def fieldDeclarators : List Node → List Node
  | [] => []
  | child :: children =>
    if child.field = "declarator" then child.declarators else fieldDeclarators children

/-- The chain that starts at the first named child; a reference declarator holds its
target as a plain child. -/
def firstNamedDeclarators : List Node → List Node
  | [] => []
  | child :: children => if child.named then child.declarators else firstNamedDeclarators children

end

end CodeAtlas

namespace CodeAtlas.Grammar.Cpp

/-- The kinds of children that are modifiers. -/
def modifierKinds : List String :=
  ["storage_class_specifier", "type_qualifier", "virtual", "virtual_function_specifier",
   "explicit_function_specifier"]

/-- The kinds of declarators that wrap another one. -/
def wrapperKinds : List String :=
  ["init_declarator", "pointer_declarator", "array_declarator", "reference_declarator"]

/-- The function declarator in the chain of a declaration. -/
def functionDeclarator? (node : Node) : Option Node :=
  (fieldDeclarators node.children).find? fun inner => inner.kind = "function_declarator"

/-- The identifier a variable or data member declares. -/
def variableDeclarator? (node : Node) : Option Node :=
  ((fieldDeclarators node.children).dropWhile fun inner =>
    wrapperKinds.contains inner.kind).head?.filter fun inner =>
      inner.kind = "identifier" || inner.kind = "field_identifier"

/-- What a node declares. -/
def declares (place : Place) : Option SymbolKind :=
  let node := place.node
  let asVariable : Option SymbolKind :=
    if (variableDeclarator? node).isSome then some .variable else none
  let withBody (kind : SymbolKind) : Option SymbolKind :=
    if (node.child? "body").isSome then some kind else none
  match node.kind with
  | "function_definition" => some .function
  | "field_declaration" => if (functionDeclarator? node).isSome then some .function else asVariable
  | "declaration" => asVariable
  | "class_specifier" => withBody .class
  | "struct_specifier" | "union_specifier" => withBody .struct
  | "enum_specifier" => withBody .enum
  | "namespace_definition" => some .module
  | "alias_declaration" | "type_definition" => some .typeAlias
  | _ => none

/-- The name of a declaration; a function goes by the last part of its name. -/
def name (source : String) (node : Node) : Option String :=
  match node.kind with
  | "function_definition" | "field_declaration" | "declaration" =>
    match functionDeclarator? node with
    | none => (variableDeclarator? node).map (Node.text source)
    | some declarator =>
      (declarator.child? "declarator").map fun target =>
        String.ofList (Chars.afterLast [':', ':'] (target.text source).toList)
  | "type_definition" => (node.child? "declarator").map (Node.text source)
  | _ => (node.child? "name").map (Node.text source)

/-- A parameter without the pointer and reference marks in front of its name. -/
def parameter (source : String) (_before : List Node) (node : Node) : List Parameter :=
  ((fieldParameter? source node).map fun parameter =>
    { parameter with
      name := Text.trim (String.ofList (parameter.name.toList.dropWhile (['*', '&'].contains ·))) }
    ).toList

end CodeAtlas.Grammar.Cpp

namespace CodeAtlas.Grammar

/-- The grammar of C++. -/
def cpp : Grammar where
  callKinds := ["call_expression"]
  declares := Cpp.declares
  name := Cpp.name
  parameterList := fun node => (Cpp.functionDeclarator? node).bind (Node.child? · "parameters")
  parameter := Cpp.parameter
  returnType := fun source node =>
    (Cpp.functionDeclarator? node).bind fun _ => (node.child? "type").map (Node.text source)
  decorators := fun _ _ => []
  modifiers := fun source place => place.node.textsOfKinds source Cpp.modifierKinds

end CodeAtlas.Grammar
