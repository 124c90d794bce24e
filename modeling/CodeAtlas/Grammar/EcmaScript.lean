import CodeAtlas.Grammar.Basic

/-!
# JavaScript, TypeScript and TSX declarations

The three languages share one grammar family; the typed two add interfaces, type
aliases, enumerations and modules. For `const f = () => …` the function value
carries the header of the declaration.
-/

namespace CodeAtlas.Grammar.EcmaScript

/-- The kinds of values that make a variable a function. -/
def functionKinds : List String :=
  ["arrow_function", "function", "function_expression", "generator_function"]

/-- The kinds of children that are modifiers. -/
def modifierKinds : List String :=
  ["static", "async", "readonly", "abstract", "override", "declare", "get", "set",
   "accessibility_modifier"]

/-- The function a variable is bound to. -/
def functionValue? (node : Node) : Option Node :=
  if node.kind = "variable_declarator" then
    (node.child? "value").filter fun value => functionKinds.contains value.kind
  else none

/-- The node that carries the header: the function value of a variable, else the node
itself. -/
def carrier (node : Node) : Node := (functionValue? node).getD node

/-- What a node declares. -/
def declares (typed : Bool) (place : Place) : Option SymbolKind :=
  let node := place.node
  match node.kind with
  | "function_declaration" | "generator_function_declaration" | "function_signature" =>
    some .function
  | "class_declaration" | "abstract_class_declaration" => some .class
  | "class" => if (node.child? "name").isSome then some .class else none
  | "method_definition" | "method_signature" | "abstract_method_signature" => some .method
  | "variable_declarator" =>
    if ((node.child? "name").map Node.kind) = some "identifier" then
      if (functionValue? node).isSome then some .function else some .variable
    else none
  | "field_definition" | "public_field_definition" => some .variable
  | "interface_declaration" => if typed then some .interface else none
  | "type_alias_declaration" => if typed then some .typeAlias else none
  | "enum_declaration" => if typed then some .enum else none
  | "internal_module" | "module" => if typed then some .module else none
  | _ => none

/-- The name of a declaration. -/
def name (source : String) (node : Node) : Option String :=
  (node.child? (if node.kind = "field_definition" then "property" else "name")).map
    (Node.text source)

/-- The statement of a variable, and the export around either. -/
def anchor (place : Place) : Place :=
  let owner :=
    if place.kind = "variable_declarator" then place.parent?.getD place else place
  (owner.parentOfKind? ["export_statement"]).getD owner

/-- The parameters of a declaration; `x => …` has one bare name and no list. -/
def parameters (source : String) (node : Node) : List Parameter :=
  match (carrier node).child? "parameter" with
  | some single => [{ name := single.text source }]
  | none =>
    (((carrier node).child? "parameters").map
      (listParameters (fun child => child.kind = "comment")
        (fun _ child => (fieldParameter? source child).toList))).getD []

/-- The decorators of the export around a declaration, then its own. -/
def decorators (source : String) (place : Place) : List String :=
  let owner := anchor place
  (if owner.kind = "export_statement" then owner.node.textsOfKinds source ["decorator"] else [])
    ++ place.node.textsOfKinds source ["decorator"]

/-- The keyword that opens the statement of a variable. -/
def keyword (source : String) (place : Place) : List String :=
  if place.kind = "variable_declarator" then
    (((place.parent?.bind fun statement => statement.node.children.head?).filter
      fun first => !first.named).map (Node.text source)).toList
  else []

/-- Export words, the keyword of a variable, the declaration's own modifiers, and
`async` when the function value has it. -/
def modifiers (source : String) (place : Place) : List String :=
  let owner := anchor place
  let exported :=
    if owner.kind = "export_statement" then
      "export" :: (if owner.node.hasChildOfKind "default" then ["default"] else [])
    else []
  let valueAsync :=
    match functionValue? place.node with
    | some value => if value.hasChildOfKind "async" then ["async"] else []
    | none => []
  exported ++ keyword source place ++ place.node.textsOfKinds source modifierKinds ++ valueAsync

end CodeAtlas.Grammar.EcmaScript

namespace CodeAtlas.Grammar

/-- The grammar of JavaScript, and of its typed relatives. -/
def ecmaScript (typed : Bool) : Grammar where
  callKinds := ["call_expression", "new_expression"]
  declares := EcmaScript.declares typed
  name := EcmaScript.name
  anchor := EcmaScript.anchor
  body := fun node => (EcmaScript.carrier node).child? "body"
  parameterList := fun node => (EcmaScript.carrier node).child? "parameters"
  parameters := EcmaScript.parameters
  returnType := fun source node =>
    ((EcmaScript.carrier node).child? "return_type").map fun type =>
      stripAnnotation (type.text source)
  isAsync := fun _ place => (EcmaScript.carrier place.node).hasChildOfKind "async"
  docstring := fun source place =>
    Comment.docComment? source (Text.startsWith "/**") (EcmaScript.anchor place)
  decorators := EcmaScript.decorators
  modifiers := EcmaScript.modifiers

end CodeAtlas.Grammar
