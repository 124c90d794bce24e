import CodeAtlas.Text.Chars

/-!
# Text operations

The operations of `CodeAtlas.Chars` on strings. Each is the list operation
between `String.toList` and `String.ofList`, and nothing else.
-/

namespace CodeAtlas.Text

/-- Drops leading white space. -/
def trimStart (s : String) : String := String.ofList (Chars.trimStart s.toList)

/-- Drops trailing white space. -/
def trimEnd (s : String) : String := String.ofList (Chars.trimEnd s.toList)

/-- Drops white space at both ends. -/
def trim (s : String) : String := String.ofList (Chars.trim s.toList)

/-- Whether a text holds nothing but white space. -/
def isBlank (s : String) : Bool := s.toList.all isBlankChar

/-- The lines of a text, without their line ends. -/
def lines (s : String) : List String := (Chars.lines s.toList).map String.ofList

/-- The first line of a text, empty when it has none. -/
def firstLine (s : String) : String := (lines s).headD ""

/-- Whether `needle` occurs in a text. -/
def contains (needle s : String) : Bool := Chars.contains needle.toList s.toList

/-- Whether a text begins with `lead`. -/
def startsWith (lead s : String) : Bool := lead.toList.isPrefixOf s.toList

/-- Whether a text ends with `tail`. -/
def endsWith (tail s : String) : Bool := tail.toList.isSuffixOf s.toList

/-- What follows `lead` at the start of a text. -/
def stripPrefix? (lead s : String) : Option String :=
  (Chars.stripPrefix? lead.toList s.toList).map String.ofList

/-- What precedes `tail` at the end of a text. -/
def stripSuffix? (tail s : String) : Option String :=
  (Chars.stripSuffix? tail.toList s.toList).map String.ofList

/-- The pieces between occurrences of a separator character. -/
def splitAt (separator : Char) (s : String) : List String :=
  (Chars.splitAt separator s.toList).map String.ofList

/-- Lowers the letters `A` to `Z` and nothing else. -/
def lower (s : String) : String := String.ofList (Chars.lower s.toList)

/-- Replaces every occurrence of one character by another. -/
def replaceChar (old new : Char) (s : String) : String :=
  String.ofList (s.toList.map fun c => if c = old then new else c)

/-- Joins texts with a separator between neighbours. -/
def join (separator : String) (pieces : List String) : String :=
  String.ofList (Chars.join separator.toList (pieces.map String.toList))

/-- The bytes from `start` up to but not including `stop`, when both offsets lie
between characters of the text. -/
def slice? (start stop : Nat) (s : String) : Option String :=
  (Chars.slice? start stop s.toList).map String.ofList

/-- The number of line feeds before a byte offset: its row, counted from zero. -/
def row (offset : Nat) (s : String) : Nat := Chars.row offset s.toList

/-- The number of bytes of a text in UTF-8. -/
def byteSize (s : String) : Nat := Chars.byteSize s.toList

end CodeAtlas.Text
