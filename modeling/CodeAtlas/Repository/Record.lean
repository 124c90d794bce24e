import CodeAtlas.Text.ByteLines

/-!
# Records of a repository

The small files of a repository hold one line each. What counts of such a record is what
stands before the white space at its end, up to a zero byte. White space is that of ASCII.
Other files name commits by their ids, and those that are taken byte by byte are read with a
character for each byte.
-/

namespace CodeAtlas.RepositoryRecord

/-- Whether a byte is white space. -/
def isSpace (byte : UInt8) : Bool := byte = 32 || (9 ≤ byte && byte ≤ 13)

/-- The bytes of a record without the white space at its end. -/
def trimmed (content : ByteArray) : List UInt8 :=
  (content.data.toList.reverse.dropWhile isSpace).reverse

/-- The text that bytes spell before a zero byte, when they are valid UTF-8. -/
def spelled? (bytes : List UInt8) : Option String := textOfBytes? (bytes.takeWhile (· ≠ 0))

/-- The text of a record. -/
def text? (content : ByteArray) : Option String := spelled? (trimmed content)

/-- The bytes that follow a mark at the start of a record. -/
def after? (mark : String) (bytes : List UInt8) : Option (List UInt8) :=
  let lead := mark.toUTF8.data.toList
  if lead.isPrefixOf bytes then some (bytes.drop lead.length) else none

/-! ## A character for each byte -/

/-- The characters that bytes stand for, each by its number. -/
def charsOf (bytes : List UInt8) : List Char := bytes.map fun byte => Char.ofNat byte.toNat

/-- The bytes that characters stand for. -/
def bytesOf (cs : List Char) : List UInt8 := cs.map fun c => c.toNat.toUInt8

/-! ## Ids -/

/-- The number of digits of an id. -/
def idLength : Nat := 40

/-- Whether a character is a hexadecimal digit. -/
def isHexDigit (c : Char) : Bool :=
  c.isDigit || ('A' ≤ c && c ≤ 'F') || ('a' ≤ c && c ≤ 'f')

/-- Reads an id, and gives what follows it. Letters among its digits are lowered. -/
def readId? (cs : List Char) : Option (String × List Char) :=
  let digits := cs.take idLength
  if digits.length = idLength ∧ digits.all isHexDigit then
    some (String.ofList (digits.map Char.toLower), cs.drop idLength)
  else none

/-- Whether characters are an id and nothing else. -/
def isId (cs : List Char) : Bool := (readId? cs).any fun read => read.2.isEmpty

end CodeAtlas.RepositoryRecord
