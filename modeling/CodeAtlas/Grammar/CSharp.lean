import CodeAtlas.Grammar.Basic

/-!
# C# declarations

The declarator of a field stands two levels below the statement that carries its
modifiers and attributes. A `params` parameter is a bare identifier after its type.
-/

namespace CodeAtlas.Grammar.CSharp

/-- What a node declares. -/
def declares (place : Place) : Option SymbolKind :=
  match place.kind with
  | "class_declaration" | "record_declaration" => some .class
  | "struct_declaration" | "record_struct_declaration" => some .struct
  | "interface_declaration" => some .interface
  | "enum_declaration" => some .enum
  | "method_declaration" | "constructor_declaration" | "destructor_declaration" => some .method
  | "local_function_statement" => some .function
  | "namespace_declaration" | "file_scoped_namespace_declaration" => some .module
  | "property_declaration" | "variable_declarator" => some .variable
  | "delegate_declaration" => some .typeAlias
  | _ => none

/-- The statement around the declaration of a variable. -/
def anchor (place : Place) : Place :=
  if place.kind = "variable_declarator" then
    ((place.parentOfKind? ["variable_declaration"]).bind Place.parent?).getD place
  else place

/-- The parameters of one entry. -/
def parameter (source : String) (before : List Node) (node : Node) : List Parameter :=
  match node.kind with
  | "parameter" =>
    let clause? := node.namedChildren.find? fun child => child.kind = "equals_value_clause"
    let defaultValue := (clause?.bind Node.firstNamed?).map (Node.text source)
    ((fieldParameter? source node).map fun parameter => { parameter with defaultValue }).toList
  | "identifier" =>
    let type? := (before.find? Node.named).filter fun type =>
      type.kind ≠ "parameter" ∧ type.kind ≠ "attribute_list"
    [{ name := node.text source, typeText := type?.map (Node.text source) }]
  | _ => []

/-- The return type of a method or local function. -/
def returnType (source : String) (node : Node) : Option String :=
  if ["method_declaration", "local_function_statement"].contains node.kind then
    (node.firstChild? ["returns", "type"]).map (Node.text source)
  else none

/-- The modifiers of a declaration. -/
def modifiers (source : String) (place : Place) : List String :=
  (anchor place).node.textsOfKinds source ["modifier"]

end CodeAtlas.Grammar.CSharp

namespace CodeAtlas.Grammar

/-- The grammar of C#. -/
def cSharp : Grammar where
  callKinds := ["invocation_expression", "object_creation_expression"]
  declares := CSharp.declares
  anchor := CSharp.anchor
  parameter := CSharp.parameter
  returnType := CSharp.returnType
  isAsync := fun source place => (CSharp.modifiers source place).contains "async"
  decorators := fun source place =>
    (CSharp.anchor place).node.textsOfKinds source ["attribute_list"]
  modifiers := CSharp.modifiers

end CodeAtlas.Grammar
