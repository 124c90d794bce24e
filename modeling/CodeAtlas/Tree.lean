import CodeAtlas.Text.Basic

/-!
# Syntax trees

A node carries its kind, whether it is a named node or an anonymous token, the
field it fills in its parent and the byte range it covers. A `Place` is a node
together with where it stands: the siblings before it and the nodes above it. The
places of a tree are listed in preorder, so an outer node comes before the nodes
inside it.
-/

namespace CodeAtlas

/-- A node of a syntax tree. -/
inductive Node where
  | mk (kind : String) (named : Bool) (field : String) (start stop : Nat) (children : List Node)

namespace Node

/-- The grammar's word for the node. -/
def kind : Node → String
  | mk kind _ _ _ _ _ => kind

/-- Whether the node is named, rather than an anonymous token. -/
def named : Node → Bool
  | mk _ named _ _ _ _ => named

/-- The field the node fills in its parent, empty for none. -/
def field : Node → String
  | mk _ _ field _ _ _ => field

/-- The byte offset the node starts at. -/
def start : Node → Nat
  | mk _ _ _ start _ _ => start

/-- The byte offset right after the node. -/
def stop : Node → Nat
  | mk _ _ _ _ stop _ => stop

/-- The children in order, anonymous tokens included. -/
def children : Node → List Node
  | mk _ _ _ _ _ children => children

/-- The byte range of a node. -/
def range (node : Node) : Nat × Nat := (node.start, node.stop)

/-- The named children in order. -/
def namedChildren (node : Node) : List Node := node.children.filter Node.named

/-- The first child that fills a field. -/
def child? (node : Node) (field : String) : Option Node :=
  node.children.find? fun child => child.field = field

/-- The first named child. -/
def firstNamed? (node : Node) : Option Node := node.namedChildren.head?

/-- The first child of a kind. -/
def childOfKind? (node : Node) (kind : String) : Option Node :=
  node.children.find? fun child => child.kind = kind

/-- Whether some child is of a kind. -/
def hasChildOfKind (node : Node) (kind : String) : Bool :=
  node.children.any fun child => child.kind = kind

/-- The text a node covers; empty when its range is no range of the text. -/
def text (source : String) (node : Node) : String :=
  (Text.slice? node.start node.stop source).getD ""

/-- The texts of the children whose kind is listed. -/
def textsOfKinds (source : String) (kinds : List String) (node : Node) : List String :=
  (node.children.filter fun child => kinds.contains child.kind).map (Node.text source)

/-- The text of the first named child whose kind ends in `identifier`. -/
def firstIdentifier? (source : String) (node : Node) : Option String :=
  (node.namedChildren.find? fun child => Text.endsWith "identifier" child.kind).map
    (Node.text source)

/-- The row a node starts on, counted from zero. -/
def startRow (source : String) (node : Node) : Nat := Text.row node.start source

/-- The row a node ends on, counted from zero. -/
def stopRow (source : String) (node : Node) : Nat := Text.row node.stop source

/-- Whether the node is a comment of some sort. -/
def isComment (node : Node) : Bool := Text.contains "comment" node.kind

end Node

/-- A node above another one, with the siblings before it, nearest first. -/
structure Frame where
  node : Node
  before : List Node

/-- A node and where it stands in its tree. -/
structure Place where
  node : Node
  /-- The siblings before the node, nearest first. -/
  before : List Node
  /-- The nodes above, parent first. -/
  above : List Frame

namespace Place

/-- The place of the whole tree. -/
def root (tree : Node) : Place := ⟨tree, [], []⟩

/-- The kind of the node at a place. -/
def kind (place : Place) : String := place.node.kind

/-- The place of the parent. -/
def parent? (place : Place) : Option Place :=
  match place.above with
  | [] => none
  | frame :: above => some ⟨frame.node, frame.before, above⟩

/-- The place of the parent, when its kind is listed. -/
def parentOfKind? (place : Place) (kinds : List String) : Option Place :=
  place.parent?.filter fun parent => kinds.contains parent.kind

end Place

mutual

/-- The places of a node and everything below it, in preorder. -/
def Node.places (before : List Node) (above : List Frame) : Node → List Place
  | node@(.mk _ _ _ _ _ children) =>
    ⟨node, before, above⟩ :: siblingPlaces [] (⟨node, before⟩ :: above) children

/-- The places of neighbouring nodes and everything below them, in preorder. -/
def siblingPlaces (before : List Node) (above : List Frame) : List Node → List Place
  | [] => []
  | node :: nodes => node.places before above ++ siblingPlaces (node :: before) above nodes

end

/-- The places of a tree, in preorder. -/
def Node.allPlaces (tree : Node) : List Place := tree.places [] []

mutual

/-- A node and everything below it, in preorder. -/
def Node.preorder : Node → List Node
  | node@(.mk _ _ _ _ _ children) => node :: forestPreorder children

/-- Neighbouring nodes and everything below them, in preorder. -/
def forestPreorder : List Node → List Node
  | [] => []
  | node :: nodes => node.preorder ++ forestPreorder nodes

end

end CodeAtlas
