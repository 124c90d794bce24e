import CodeAtlas.Grammar.Basic

/-!
# Go declarations

A specification that stands alone in its group is documented above the group's
keyword. One entry of a parameter list may declare several names, or only a type.
-/

namespace CodeAtlas.Grammar.Go

/-- What a node declares. -/
def declares (place : Place) : Option SymbolKind :=
  match place.kind with
  | "function_declaration" => some .function
  | "method_declaration" => some .method
  | "type_spec" =>
    match (place.node.child? "type").map Node.kind with
    | some "struct_type" => some .struct
    | some "interface_type" => some .interface
    | _ => some .typeAlias
  | "type_alias" => some .typeAlias
  | "const_spec" | "var_spec" => some .variable
  | _ => none

/-- The group of a specification that is its only one. -/
def anchor (place : Place) : Place :=
  ((place.parentOfKind? ["type_declaration", "const_declaration", "var_declaration"]).filter
    fun group => group.node.namedChildren.length = 1).getD place

/-- The parameters of one entry: one for each name, or the type alone. -/
def parameter (source : String) (_before : List Node) (node : Node) : List Parameter :=
  let written := (node.child? "type").map (Node.text source)
  let typeText :=
    if node.kind = "variadic_parameter_declaration" then written.map ("..." ++ ·) else written
  match node.children.filter fun child => child.field = "name" with
  | [] => (typeText.map fun type => { name := type }).toList
  | names => names.map fun name => { name := name.text source, typeText }

end CodeAtlas.Grammar.Go

namespace CodeAtlas.Grammar

/-- The grammar of Go. -/
def go : Grammar where
  callKinds := ["call_expression"]
  declares := Go.declares
  anchor := Go.anchor
  parameter := Go.parameter
  returnType := fun source node => (node.child? "result").map (Node.text source)
  docstring := fun source place =>
    Comment.docComment? source (Text.startsWith "//") (Go.anchor place)
  decorators := fun _ _ => []
  modifiers := fun source place =>
    ((place.node.child? "receiver").map (Node.text source)).toList

end CodeAtlas.Grammar
