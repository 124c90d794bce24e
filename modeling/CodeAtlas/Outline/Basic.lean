import CodeAtlas.Grammar.Builtin
import CodeAtlas.Outline.Nesting

/-!
# Outlines

The outline of a source text is the list of its declarations in reading order, each
with its parent. Every node the grammar accepts becomes a symbol; declarations that
only name the parent of their members take part in the nesting and are then left out.
-/

namespace CodeAtlas.Outline

/-- The header of a declaration: the text up to its body, or its first line when there
is no body after its start. -/
def signature (source : String) (node : Node) (body? : Option Node) : String :=
  match body?.filter fun body => node.start < body.start with
  | some body => Text.trimEnd ((Text.slice? node.start body.start source).getD "")
  | none => Text.trimEnd (Text.firstLine (node.text source))

/-- The symbol a place declares; a declaration without a name is none. -/
def describe (grammar : Grammar) (source : String) (place : Place) : Option Symbol :=
  (grammar.declares place).bind fun kind =>
  (grammar.name source place.node).bind fun written =>
  let name := Text.trim written
  if name = "" then none
  else
    let extent := grammar.extent place
    some {
      name
      kind
      startByte := extent.start
      endByte := extent.stop
      startLine := extent.startRow source + 1
      endLine := extent.stopRow source + 1
      parameters := grammar.parameters source place.node
      returnType := (grammar.returnType source place.node).filter (· ≠ "")
      isAsync := grammar.isAsync source place
      docstring := grammar.docstring source place
      decorators := grammar.decorators source place
      modifiers := grammar.modifiers source place
      signature := signature source place.node (grammar.body place.node) }

/-- The accepted declarations of a tree in preorder, each with its node. -/
def declarations (grammar : Grammar) (source : String) (tree : Node) : List (Node × Symbol) :=
  tree.allPlaces.filterMap fun place =>
    (describe grammar source place).map fun symbol => (place.node, symbol)

/-- The ranges of the declarations that are not listed. -/
def scopeRanges (grammar : Grammar) (found : List (Node × Symbol)) : List (Nat × Nat) :=
  (found.filter fun entry => grammar.scopeOnly entry.1).map fun entry => entry.2.range

/-- The symbols of a source text, given its tree. -/
def symbols (grammar : Grammar) (source : String) (tree : Node) : List Symbol :=
  let found := declarations grammar source tree
  let hidden := scopeRanges grammar found
  (resolveParents (found.map Prod.snd)).filter fun symbol => !hidden.contains symbol.range

end CodeAtlas.Outline
