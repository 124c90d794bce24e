import CodeAtlas.Grammar.Basic

/-!
# Rust declarations

An `impl` block declares nothing itself: it names the parent of its members and is
left out of the listing. Attributes are siblings above the item they decorate.
-/

namespace CodeAtlas.Grammar.Rust

/-- What a node declares. -/
def declares (place : Place) : Option SymbolKind :=
  match place.kind with
  | "function_item" | "function_signature_item" => some .function
  | "struct_item" | "union_item" => some .struct
  | "enum_item" => some .enum
  | "trait_item" => some .interface
  | "impl_item" => some .class
  | "type_item" => some .typeAlias
  | "mod_item" => some .module
  | "const_item" | "static_item" => some .variable
  | "let_declaration" =>
    if ((place.node.child? "pattern").map Node.kind) = some "identifier" then some .variable
    else none
  | _ => none

/-- The name of a declaration; an `impl` block goes by its type without arguments. -/
def name (source : String) (node : Node) : Option String :=
  match node.kind with
  | "impl_item" =>
    (node.child? "type").map fun type =>
      Text.trim ((Text.splitAt '<' (type.text source)).headD "")
  | "let_declaration" => (node.child? "pattern").map (Node.text source)
  | _ => (node.child? "name").map (Node.text source)

/-- The attributes above an item, nearest first; comments may stand between them. -/
def attributesAbove (source : String) : List Node → List String
  | [] => []
  | node :: before =>
    match node.kind with
    | "attribute_item" => node.text source :: attributesAbove source before
    | "line_comment" | "block_comment" => attributesAbove source before
    | _ => []

/-- The modifiers one child stands for. -/
def childModifiers (source : String) (child : Node) : List String :=
  match child.kind with
  | "visibility_modifier" => [child.text source]
  | "function_modifiers" => child.children.map (Node.text source)
  | "mutable_specifier" => ["mut"]
  | "unsafe" => ["unsafe"]
  | _ => []

/-- The trait that the block around a member implements. -/
def traitOfBlock? (place : Place) : Option Node :=
  (place.parentOfKind? ["declaration_list"]).bind fun list =>
  (list.parentOfKind? ["impl_item"]).bind fun block => block.node.child? "trait"

/-- The modifiers of an item, then the trait it implements. -/
def modifiers (source : String) (place : Place) : List String :=
  place.node.children.flatMap (childModifiers source)
    ++ ((traitOfBlock? place).map fun trait => "impl " ++ trait.text source).toList

end CodeAtlas.Grammar.Rust

namespace CodeAtlas.Grammar

/-- The grammar of Rust. -/
def rust : Grammar where
  callKinds := ["call_expression", "macro_invocation"]
  declares := Rust.declares
  name := Rust.name
  scopeOnly := fun node => node.kind = "impl_item"
  isAsync := fun _ place =>
    ((place.node.childOfKind? "function_modifiers").map (Node.hasChildOfKind · "async")).getD false
  decorators := fun source place => (Rust.attributesAbove source place.before).reverse
  modifiers := Rust.modifiers

end CodeAtlas.Grammar
