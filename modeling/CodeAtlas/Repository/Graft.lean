import CodeAtlas.Repository.Record
import CodeAtlas.Text.Chars

/-!
# Grafts

A graft gives a commit other parents than its own. A file of grafts has a line for each: the
id of the commit and those of its parents, with one space between them. A repository with a
file of grafts that is malformed is unusable.
-/

namespace CodeAtlas.Graft

/-- Whether a line is a graft. -/
def isLine (line : List UInt8) : Bool :=
  (Chars.splitAt ' ' (RepositoryRecord.charsOf line)).all RepositoryRecord.isId

/-- Whether a file holds grafts and nothing else. -/
def areWellFormed (content : ByteArray) : Bool := (byteLines content.data.toList).all isLine

end CodeAtlas.Graft
