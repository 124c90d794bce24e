import CodeAtlas.Glob.Token
import CodeAtlas.Marks

/-!
# Matching globs against paths

A glob is matched against the bytes of a path, as a whole and case-sensitively. The
tokens are taken one after the other, and each moves the marks on that say where the tokens
so far may end. In a *separated* match neither `?` nor `*` crosses a path separator.
-/

namespace CodeAtlas.Glob

/-- The bytes of a text in UTF-8. -/
def bytesOf (s : String) : List UInt8 :=
  s.toList.flatMap String.utf8EncodeChar

/-- The byte ranges of a class range. A character of several bytes contributes each
of them, and a dash joins the two bytes next to it. -/
def byteRanges (range : Char × Char) : List (UInt8 × UInt8) :=
  let low := String.utf8EncodeChar range.1
  let high := String.utf8EncodeChar range.2
  let singles (bytes : List UInt8) := bytes.map fun b => (b, b)
  if range.1 = range.2 then singles low
  else
    match low.reverse, high with
    | last :: before, first :: after => singles before ++ (last, first) :: singles after
    | _, _ => []

/-- Whether a byte is in one of some ranges. -/
def inRanges (ranges : List (UInt8 × UInt8)) (byte : UInt8) : Bool :=
  ranges.any fun range => range.1 ≤ byte && byte ≤ range.2

mutual

/-- Whether a token can match nothing but the empty text by its form alone: a group
all of whose branches are empty. -/
def Token.isVoid : Token → Bool
  | .alternates branches => areVoid branches
  | _ => false

/-- Whether every branch of a group is void. -/
def areVoid : List (List Token) → Bool
  | [] => true
  | branch :: branches => allVoid branch && areVoid branches

/-- Whether every token of a branch is void. -/
def allVoid : List Token → Bool
  | [] => true
  | token :: tokens => token.isVoid && allVoid tokens

end

mutual

/-- The marks after a token. -/
def Token.advance (separated : Bool) (path : List UInt8) : Token → Marks → Marks
  | .literal c, marks =>
    (String.utf8EncodeChar c).foldl (fun marks byte => Marks.step (· == byte) path marks) marks
  | .any, marks => Marks.step (fun byte => !(separated && byte == Marks.separator)) path marks
  | .star, marks => Marks.run (fun byte => !(separated && byte == Marks.separator)) false path marks
  | .anyLead, marks => Marks.components path marks
  | .anyTail, marks => Marks.anything path (Marks.separated path marks)
  | .anyMiddle, marks => Marks.components path (Marks.separated path marks)
  | .charClass negated ranges, marks =>
    let bytes := ranges.flatMap byteRanges
    Marks.step (fun byte => inRanges bytes byte != negated) path marks
  | .alternates branches, marks =>
    if areVoid branches then marks else advanceBranches separated path branches marks

/-- The marks after one of the branches that are not void. -/
def advanceBranches (separated : Bool) (path : List UInt8) : List (List Token) → Marks → Marks
  | [], marks => marks.map fun _ => false
  | branch :: branches, marks =>
    let others := advanceBranches separated path branches marks
    if allVoid branch then others else (advanceAll separated path branch marks).union others

/-- The marks after all tokens. -/
def advanceAll (separated : Bool) (path : List UInt8) : List Token → Marks → Marks
  | [], marks => marks
  | token :: tokens, marks => advanceAll separated path tokens (token.advance separated path marks)

end

/-- Whether a glob matches a whole path. A glob that is one leading wildcard and
nothing else matches every path. -/
def isMatch (separated : Bool) (glob : Glob) (path : String) : Bool :=
  match glob.tokens with
  | [.anyLead] => true
  | tokens =>
    let bytes := bytesOf path
    (advanceAll separated bytes tokens (Marks.start bytes)).atEnd

end CodeAtlas.Glob
