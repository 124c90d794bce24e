import CodeAtlas.Tree

/-!
# Comments

`clean` strips the delimiters and the gutter of a comment, line by line, and drops
the empty lines around what is left. `docComment?` collects the comments right above
a node: it goes back over the siblings before the node and stops at a blank row, at a
comment that is not accepted, and at anything else that is no attribute.
-/

namespace CodeAtlas.Comment

/-- What may open a line of a comment; the first that fits is stripped. -/
def openings : List String := ["///", "//!", "//", "/**", "/*", "#"]

/-- A line of a comment without its delimiters, its gutter and the blanks around. -/
def cleanLine (line : String) : String :=
  let line := Text.trim line
  let line := (openings.findSome? fun opening => Text.stripPrefix? opening line).getD line
  let line := Text.trim ((Text.stripSuffix? "*/" line).getD line)
  Text.trim ((Text.stripPrefix? "*" line).getD line)

/-- Drops the empty lines at both ends. -/
def dropOuterEmpty (lines : List String) : List String :=
  ((lines.dropWhile (· = "")).reverse.dropWhile (· = "")).reverse

/-- The content of a comment. -/
def clean (text : String) : String :=
  Text.join "\n" (dropOuterEmpty ((Text.lines text).map cleanLine))

/-- Kinds of nodes that may stand between a comment and what it documents. -/
def transparentKinds : List String := ["attribute_item", "attribute_list"]

/-- The comments that reach down to `expectedRow`, nearest first, going back over the
siblings before a node. -/
def collect (source : String) (accept : String → Bool) : (expectedRow : Nat) → List Node → List Node
  | _, [] => []
  | expectedRow, node :: before =>
    if node.stopRow source + 1 < expectedRow then []
    else if node.isComment then
      if accept (Text.trimStart (node.text source)) then
        node :: collect source accept (node.startRow source) before
      else []
    else if transparentKinds.contains node.kind then
      collect source accept (node.startRow source) before
    else []

/-- The documentation right above a place: the contents of the comments there, the
empty ones left out. -/
def docComment? (source : String) (accept : String → Bool) (anchor : Place) : Option String :=
  let comments := (collect source accept (anchor.node.startRow source) anchor.before).reverse
  let doc := Text.join "\n" ((comments.map fun node => clean (node.text source)).filter (· ≠ ""))
  if doc = "" then none else some doc

end CodeAtlas.Comment
