import CodeAtlas.Grammar.Basic

/-!
# Python declarations

Decorated definitions are reported from their first decorator on. Only plain
`name = value` statements declare a variable, and the documentation is the string
that opens the body.
-/

namespace CodeAtlas.Grammar.Python

/-- What a node declares. -/
def declares (place : Place) : Option SymbolKind :=
  match place.kind with
  | "function_definition" => some .function
  | "class_definition" => some .class
  | "assignment" =>
    if (place.parent?.map Place.kind) = some "expression_statement"
        ∧ ((place.node.child? "left").map Node.kind) = some "identifier" then
      some .variable
    else none
  | _ => none

/-- The name of a definition, or the target of an assignment. -/
def name (source : String) (node : Node) : Option String :=
  (node.child? (if node.kind = "assignment" then "left" else "name")).map (Node.text source)

/-- The wrapper of a decorated definition or the statement of an assignment. -/
def anchor (place : Place) : Place :=
  (place.parentOfKind? ["decorated_definition", "expression_statement"]).getD place

/-- A decorated definition covers its decorators. -/
def extent (place : Place) : Node :=
  ((place.parentOfKind? ["decorated_definition"]).getD place).node

/-- The parameters of one entry; bare separators declare none. -/
def parameter (source : String) (_before : List Node) (node : Node) : List Parameter :=
  match node.kind with
  | "keyword_separator" => []
  | "positional_separator" => []
  | "typed_parameter" =>
    [{ name := (node.firstNamed?.map (Node.text source)).getD ""
       typeText := (node.child? "type").map (Node.text source) }]
  | _ => (fieldParameter? source node).toList

/-- The quotes a string literal may be written in; the first that fits at both ends is
stripped. -/
def quotes : List String := ["\"\"\"", "'''", "\"", "'"]

/-- The content of a string literal, without the letters in front and the quotes. -/
def unquote (literal : String) : String :=
  let text := String.ofList (literal.toList.dropWhile ("rRbBuUfF".toList.contains ·))
  let inner? := quotes.findSome? fun quote =>
    (Text.stripPrefix? quote text).bind (Text.stripSuffix? quote)
  Text.trim (inner?.getD text)

/-- The string literal that is the first statement of the body. -/
def docstring (source : String) (place : Place) : Option String :=
  (place.node.child? "body").bind fun body =>
  (body.firstNamed?.filter fun first => first.kind = "expression_statement").bind fun first =>
  (first.firstNamed?.filter fun literal => literal.kind = "string").bind fun literal =>
  let doc := unquote (literal.text source)
  if doc = "" then none else some doc

/-- The decorators of a decorated definition. -/
def decorators (source : String) (place : Place) : List String :=
  let owner := anchor place
  if owner.kind = "decorated_definition" then owner.node.textsOfKinds source ["decorator"] else []

end CodeAtlas.Grammar.Python

namespace CodeAtlas.Grammar

/-- The grammar of Python. -/
def python : Grammar where
  callKinds := ["call"]
  declares := Python.declares
  name := Python.name
  anchor := Python.anchor
  extent := Python.extent
  parameter := Python.parameter
  docstring := Python.docstring
  decorators := Python.decorators
  modifiers := fun _ place => if place.node.hasChildOfKind "async" then ["async"] else []

end CodeAtlas.Grammar
