import CodeAtlas.Comment
import CodeAtlas.Symbol

/-!
# Grammars

A `Grammar` says how one language shapes its declarations: which nodes declare
something, where the name, the parameters and the other parts of the header are
found, and which nodes are calls. The defaults of the structure are the rules most
languages share; a language overrides the ones it shapes differently.

Every rule takes the source text first, because nodes hold offsets and no text.
-/

namespace CodeAtlas

/-- Drops a leading arrow or colon from a type annotation. -/
def stripAnnotation (text : String) : String :=
  let trimmed := Text.trim text
  let bare := (Text.stripPrefix? "->" trimmed).orElse fun _ => Text.stripPrefix? ":" trimmed
  Text.trim (bare.getD trimmed)

/-- The words that mark a parameter node as taking the rest of the arguments. -/
def restMarkers : List String := ["rest", "splat", "spread", "variadic"]

/-- The first child found under one of the fields, in the order of the fields. -/
def Node.firstChild? (node : Node) (fields : List String) : Option Node :=
  fields.findSome? node.child?

/-- A parameter read from the fields most grammars use. A node of several words that
takes the rest of the arguments is named by its whole text and has no type. -/
def fieldParameter? (source : String) (node : Node) : Option Parameter :=
  if Text.endsWith "identifier" node.kind then
    some { name := node.text source }
  else
    let rest := restMarkers.any fun marker => Text.contains marker node.kind
    let name? :=
      if rest then none
      else
        ((node.firstChild? ["name", "pattern", "left", "declarator"]).map (Node.text source)).orElse
          fun _ => node.firstIdentifier? source
    let typeText :=
      if rest then none
      else (node.child? "type").map fun type => stripAnnotation (type.text source)
    let defaultValue :=
      (node.firstChild? ["value", "default_value", "right"]).map (Node.text source)
    let name := name?.getD (node.text source)
    if Text.isBlank name then none else some { name, typeText, defaultValue }

/-- Every node of a list with the nodes before it, nearest first. -/
def withBefore : (before : List Node) → List Node → List (List Node × Node)
  | _, [] => []
  | before, node :: nodes => (before, node) :: withBefore (node :: before) nodes

/-- The parameters of a list node: those of each named child that is no comment. -/
def listParameters (isComment : Node → Bool) (parameter : List Node → Node → List Parameter)
    (list : Node) : List Parameter :=
  ((withBefore [] list.children).filter fun entry => entry.2.named && !isComment entry.2).flatMap
    fun entry => parameter entry.1 entry.2

/-- How a language shapes its declarations and calls. -/
structure Grammar where
  /-- The kinds of nodes that are calls. -/
  callKinds : List String
  /-- What a node declares, if it declares anything. -/
  declares : Place → Option SymbolKind
  /-- The name of a declaration. -/
  name : String → Node → Option String := fun source node =>
    ((node.child? "name").map (Node.text source)).orElse fun _ => node.firstIdentifier? source
  /-- The outermost node that still belongs to a declaration; comments and
  decorators are looked up around it. -/
  anchor : Place → Place := fun place => place
  /-- The node whose range is reported for a declaration. -/
  extent : Place → Node := Place.node
  /-- Whether a declaration only names the parent of its members and is not listed. -/
  scopeOnly : Node → Bool := fun _ => false
  /-- The node that ends the header of a declaration. -/
  body : Node → Option Node := fun node => node.child? "body"
  /-- The node that holds the parameters of a declaration. -/
  parameterList : Node → Option Node := fun node => node.child? "parameters"
  /-- The parameters one entry of a parameter list declares, given the entries before
  it, nearest first. -/
  parameter : String → List Node → Node → List Parameter := fun source _ node =>
    (fieldParameter? source node).toList
  /-- The parameters of a declaration. -/
  parameters : String → Node → List Parameter := fun source node =>
    ((parameterList node).map (listParameters Node.isComment (parameter source))).getD []
  /-- The type a declaration returns, as written. -/
  returnType : String → Node → Option String := fun source node =>
    (node.child? "return_type").map fun type => stripAnnotation (type.text source)
  /-- The keywords in front of a declaration. -/
  modifiers : String → Place → List String := fun _ _ => []
  /-- Whether a declaration is asynchronous. -/
  isAsync : String → Place → Bool := fun _ place => place.node.hasChildOfKind "async"
  /-- The documentation of a declaration. -/
  docstring : String → Place → Option String := fun source place =>
    Comment.docComment? source
      (fun text => Text.startsWith "/**" text || Text.startsWith "///" text) (anchor place)
  /-- The decorators, annotations or attributes of a declaration. -/
  decorators : String → Place → List String := fun source place =>
    place.node.textsOfKinds source ["decorator"]

end CodeAtlas
