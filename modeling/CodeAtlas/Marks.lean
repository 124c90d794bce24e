/-!
# Marks on a path

A pattern is matched against the bytes of a path for all positions of the path at once:
marks say at which positions the part of the pattern before may end, and every element of
the pattern moves them on. So the time is the length of the path for each element, however
the wildcards are placed.
-/

namespace CodeAtlas

/-- For each position of a path, its start and its end among them, whether what stands
before the position has been matched. -/
abbrev Marks := List Bool

namespace Marks

/-- The byte that separates path components. -/
def separator : UInt8 := 0x2F

/-- Nothing has been matched but the empty text. -/
def start (path : List UInt8) : Marks := true :: path.map fun _ => false

/-- Whether the whole path has been matched. -/
def atEnd (marks : Marks) : Bool := marks.getLast?.getD false

/-- The positions marked in one of two ways. -/
def union (marks others : Marks) : Marks := List.zipWith (· || ·) marks others

/-- After one byte that passes a test. -/
def step (passes : UInt8 → Bool) (path : List UInt8) (marks : Marks) : Marks :=
  false :: List.zipWith (fun byte mark => mark && passes byte) path marks

/-- After any number of bytes that pass a test; `carried` says whether they may have begun
before the path. -/
def run (passes : UInt8 → Bool) (carried : Bool) : List UInt8 → Marks → Marks
  | byte :: path, mark :: marks =>
    (carried || mark) :: run passes ((carried || mark) && passes byte) path marks
  | _, marks => marks.map (carried || ·)

/-- After any bytes at all. -/
def anything (path : List UInt8) (marks : Marks) : Marks := run (fun _ => true) false path marks

/-- After a separator. -/
def separated (path : List UInt8) (marks : Marks) : Marks := step (· == separator) path marks

/-- After nothing, or any bytes and a separator. -/
def components (path : List UInt8) (marks : Marks) : Marks :=
  marks.union (separated path (anything path marks))

end Marks

end CodeAtlas
