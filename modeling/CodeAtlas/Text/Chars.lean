import CodeAtlas.Text.Blank

/-!
# Character lists

The list form of every text operation of the library. The wrappers on `String`
are in `CodeAtlas.Text.Basic`; laws are stated here, where induction on the
text is induction on a list.
-/

namespace CodeAtlas.Chars

/-- Drops leading white space. -/
def trimStart (cs : List Char) : List Char :=
  cs.dropWhile isBlankChar

/-- Drops trailing white space. -/
def trimEnd (cs : List Char) : List Char :=
  (cs.reverse.dropWhile isBlankChar).reverse

/-- Drops white space at both ends. -/
def trim (cs : List Char) : List Char :=
  trimEnd (trimStart cs)

/-- The lines of a text. A line ends at a line feed, which is dropped together
with one carriage return before it; the end of the text ends a last line that is
not empty. -/
def lines : List Char → List (List Char)
  | [] => []
  | '\n' :: rest => [] :: lines rest
  | '\r' :: '\n' :: rest => [] :: lines rest
  | c :: rest =>
    match lines rest with
    | [] => [[c]]
    | line :: others => (c :: line) :: others

/-- What follows `lead` at the start of a text. -/
def stripPrefix? : (lead : List Char) → List Char → Option (List Char)
  | [], cs => some cs
  | _ :: _, [] => none
  | p :: lead, c :: cs => if p = c then stripPrefix? lead cs else none

/-- What precedes `tail` at the end of a text. -/
def stripSuffix? (tail cs : List Char) : Option (List Char) :=
  (stripPrefix? tail.reverse cs.reverse).map List.reverse

/-- Whether `needle` occurs somewhere as a contiguous run. -/
def contains (needle : List Char) : List Char → Bool
  | [] => needle.isEmpty
  | c :: cs => needle.isPrefixOf (c :: cs) || contains needle cs

/-- What follows the last occurrence of `mark`; the whole text when there is none. -/
def afterLast (mark : List Char) : List Char → List Char
  | [] => []
  | c :: cs =>
    if contains mark cs then afterLast mark cs
    else (stripPrefix? mark (c :: cs)).getD (c :: cs)

/-- The pieces between occurrences of a separator character; one more piece than
there are separators. -/
def splitAt (separator : Char) : List Char → List (List Char)
  | [] => [[]]
  | c :: cs =>
    if c = separator then [] :: splitAt separator cs
    else match splitAt separator cs with
      | [] => [[c]]
      | piece :: pieces => (c :: piece) :: pieces

/-- Lowers the letters `A` to `Z` and nothing else. -/
def lower (cs : List Char) : List Char :=
  cs.map fun c => if 'A' ≤ c ∧ c ≤ 'Z' then Char.ofNat (c.toNat + 32) else c

/-- The number of bytes of a text in UTF-8. -/
def byteSize (cs : List Char) : Nat :=
  cs.foldr (fun c size => c.utf8Size + size) 0

/-- The text from a byte offset on; none when the offset lies inside a character
or past the end. -/
def dropBytes? : Nat → List Char → Option (List Char)
  | 0, cs => some cs
  | _ + 1, [] => none
  | n + 1, c :: cs => if c.utf8Size ≤ n + 1 then dropBytes? (n + 1 - c.utf8Size) cs else none

/-- The first bytes of a text; none when the cut lies inside a character or past
the end. -/
def takeBytes? : Nat → List Char → Option (List Char)
  | 0, _ => some []
  | _ + 1, [] => none
  | n + 1, c :: cs =>
    if c.utf8Size ≤ n + 1 then (takeBytes? (n + 1 - c.utf8Size) cs).map (c :: ·) else none

/-- The bytes from `start` up to but not including `stop`. -/
def slice? (start stop : Nat) (cs : List Char) : Option (List Char) :=
  if start ≤ stop then (dropBytes? start cs).bind (takeBytes? (stop - start)) else none

/-- The number of line feeds that begin before a byte offset. -/
def row : Nat → List Char → Nat
  | 0, _ => 0
  | _, [] => 0
  | n + 1, c :: cs => (if c = '\n' then 1 else 0) + row (n + 1 - c.utf8Size) cs

/-- Joins pieces with a separator between neighbours. -/
def join (separator : List Char) : List (List Char) → List Char
  | [] => []
  | [piece] => piece
  | piece :: pieces => piece ++ separator ++ join separator pieces

end CodeAtlas.Chars
