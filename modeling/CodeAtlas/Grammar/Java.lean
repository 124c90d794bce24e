import CodeAtlas.Grammar.Basic

/-!
# Java declarations

Annotations and keywords stand together in one `modifiers` node. Those of a variable
are on the declaration around it.
-/

namespace CodeAtlas.Grammar.Java

/-- What a node declares. -/
def declares (place : Place) : Option SymbolKind :=
  match place.kind with
  | "class_declaration" | "record_declaration" => some .class
  | "interface_declaration" | "annotation_type_declaration" => some .interface
  | "enum_declaration" => some .enum
  | "method_declaration" | "constructor_declaration" => some .method
  | "variable_declarator" => some .variable
  | _ => none

/-- The declaration around a variable. -/
def anchor (place : Place) : Place :=
  if place.kind = "variable_declarator" then place.parent?.getD place else place

/-- The annotations and keywords of a declaration. -/
def modifierNodes (place : Place) : List Node :=
  (((anchor place).node.childOfKind? "modifiers").map Node.children).getD []

/-- Whether a modifier is an annotation. -/
def isAnnotation (node : Node) : Bool :=
  ["marker_annotation", "annotation"].contains node.kind

end CodeAtlas.Grammar.Java

namespace CodeAtlas.Grammar

/-- The grammar of Java. -/
def java : Grammar where
  callKinds := ["method_invocation", "object_creation_expression"]
  declares := Java.declares
  anchor := Java.anchor
  returnType := fun source node =>
    if node.kind = "method_declaration" then (node.child? "type").map (Node.text source) else none
  decorators := fun source place =>
    ((Java.modifierNodes place).filter Java.isAnnotation).map (Node.text source)
  modifiers := fun source place =>
    ((Java.modifierNodes place).filter fun node => !Java.isAnnotation node && !node.isComment).map
      (Node.text source)

end CodeAtlas.Grammar
