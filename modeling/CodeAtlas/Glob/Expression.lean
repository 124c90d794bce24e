import CodeAtlas.Glob.Match

/-!
# Globs as expressions

A glob that more than a comparison of text decides stands for a regular expression over
bytes. Its parts are groups, classes, repetitions, alternations and sequences, and they may
be nested at most `maxDepth` deep. `expression` writes the expression out, and `depth` says
how deep it is nested. Both are read off the tokens, so nothing has to be parsed again.

The globs of a set are divided by how they are tried. Those that comparing text decides have
no expression. Those that end in a file extension have one of their own, and the others
share one list. An expression that is nested too deep is reported by its own text in the
first case and by its place in the list in the second.
-/

namespace CodeAtlas.Glob

/-- How deep an expression may be nested. -/
def maxDepth : Nat := 250

/-! ## The text of an expression -/

/-- A byte as an expression writes it: marks that mean something there are escaped, and so
is a byte that is no character. -/
def writtenByte (byte : UInt8) : String :=
  let c := Char.ofNat byte.toNat
  if 0x7F < byte then "\\x" ++ String.ofList (Nat.toDigits 16 byte.toNat)
  else if "\\.+*?()|[]\x7b\x7d^$#&-~".toList.contains c then "\\" ++ c.toString
  else c.toString

/-- A character as an expression writes it, byte by byte. -/
def writtenChar (c : Char) : String :=
  Text.join "" ((String.utf8EncodeChar c).map writtenByte)

/-- A class range as an expression writes it. -/
def writtenRange (range : Char × Char) : String :=
  if range.1 = range.2 then writtenChar range.1
  else writtenChar range.1 ++ "-" ++ writtenChar range.2

mutual

/-- The expression of a token. -/
def Token.expression (separated : Bool) : Token → String
  | .literal c => writtenChar c
  | .any => if separated then "[^/]" else "."
  | .star => if separated then "[^/]*" else ".*"
  | .anyLead => "(?:/?|.*/)"
  | .anyTail => "/.*"
  | .anyMiddle => "(?:/|/.*/)"
  | .charClass negated ranges =>
    let mark := if negated then "^" else ""
    "[" ++ mark ++ Text.join "" (ranges.map writtenRange) ++ "]"
  | .alternates branches =>
    if areVoid branches then ""
    else "(?:" ++ Text.join "|" (branchExpressions separated branches) ++ ")"

/-- The expressions of the branches that are not void. -/
def branchExpressions (separated : Bool) : List (List Token) → List String
  | [] => []
  | branch :: branches =>
    let others := branchExpressions separated branches
    if allVoid branch then others else sequenceExpression separated branch :: others

/-- The expression of one token after the other. -/
def sequenceExpression (separated : Bool) : List Token → String
  | [] => ""
  | token :: tokens => token.expression separated ++ sequenceExpression separated tokens

end

/-- The expression of a glob: it matches bytes, and a path as a whole. -/
def expression (separated : Bool) (glob : Glob) : String :=
  match glob.tokens with
  | [.anyLead] => "(?-u)^.*$"
  | tokens => "(?-u)^" ++ sequenceExpression separated tokens ++ "$"

/-! ## Its depth -/

/-- How deep parts of given depths are nested when they are joined; a part alone needs no
joining. -/
def joinedDepth : List Nat → Nat
  | [] => 0
  | [depth] => depth
  | depths => depths.foldl max 0 + 1

mutual

/-- How deep each part of a token's expression is nested. A part that is no more than a
byte has depth zero. -/
def Token.depths (separated : Bool) : Token → List Nat
  | .literal c => (String.utf8EncodeChar c).map fun _ => 0
  | .any => [if separated then 1 else 0]
  | .star => [if separated then 2 else 1]
  | .anyLead => [4]
  | .anyTail => [0, 1]
  | .anyMiddle => [4]
  | .charClass _ ranges => [if (ranges.flatMap byteRanges).length = 1 then 1 else 2]
  | .alternates branches =>
    match branchDepths separated branches with
    | [] => []
    | depths => [joinedDepth depths + 1]

/-- How deep each branch that is not void is nested. -/
def branchDepths (separated : Bool) : List (List Token) → List Nat
  | [] => []
  | branch :: branches =>
    match sequenceDepths separated branch with
    | [] => branchDepths separated branches
    | depths => joinedDepth depths :: branchDepths separated branches

/-- How deep each part of the tokens' expression is nested. -/
def sequenceDepths (separated : Bool) : List Token → List Nat
  | [] => []
  | token :: tokens => token.depths separated ++ sequenceDepths separated tokens

end

/-- How deep the expression of a glob is nested. -/
def depth (separated : Bool) (glob : Glob) : Nat :=
  (sequenceDepths separated glob.tokens).foldl max 0 + 1

/-- Whether the expression of a glob is nested deeper than allowed. -/
def isTooDeep (separated : Bool) (glob : Glob) : Bool := maxDepth < glob.depth separated

/-! ## The globs of a set -/

/-- How a glob of a set is tried. -/
inductive Trial where
  /-- By comparing text. -/
  | comparison
  /-- By an expression of its own, for files with its extension. -/
  | guarded
  /-- By an expression in the common list. -/
  | shared
  deriving DecidableEq, Repr

/-- The characters of tokens that are all literal. -/
def literals? (tokens : List Token) : Option (List Char) :=
  tokens.mapM fun
    | .literal c => some c
    | _ => none

/-- Whether the tokens are some text that a path begins with. -/
def isLeadingText (tokens : List Token) : Bool :=
  match tokens.reverse with
  | .anyTail :: before => (literals? before).isSome
  | .star :: before => !before.isEmpty && (literals? before).isSome
  | before => !before.isEmpty && (literals? before).isSome

/-- Whether the tokens are some text that a path ends with, after whole components or
after anything. A separator alone is not enough. -/
def isFinalText (tokens : List Token) : Bool :=
  let isText (tokens : List Token) : Bool :=
    match literals? tokens with
    | some text => !([[], ['/']].contains text)
    | none => false
  match tokens with
  | .anyLead :: .star :: tokens => isText tokens
  | .anyLead :: tokens => !tokens.isEmpty && (literals? tokens).isSome
  | .star :: tokens => isText tokens
  | _ => false

/-- Whether the tokens, last first, end in a file extension. -/
def endsInExtension : List Token → Bool
  | .literal c :: before => c = '.' || (c ≠ '/' && endsInExtension before)
  | _ => false

/-- How a glob of a set is tried. -/
def trial (glob : Glob) : Trial :=
  if isLeadingText glob.tokens || isFinalText glob.tokens then .comparison
  else if endsInExtension glob.tokens.reverse then .guarded
  else .shared

/-- Says what is wrong with the expressions of a set of globs: first the ones that globs
have of their own, then the common list. The depth of an expression is the one thing looked
at. The limit on the size of a compiled set, which only very long globs reach, is left out. -/
def checkSet (globs : List Glob) : Except Error Unit :=
  let guarded := globs.filter fun glob => glob.trial = .guarded
  let shared := globs.filter fun glob => glob.trial = .shared
  match guarded.find? (isTooDeep false), shared.findIdx? (isTooDeep false) with
  | some glob, _ => .error ⟨some (glob.expression false), .unreadableExpression 0⟩
  | none, some place => .error ⟨none, .unreadableExpression place⟩
  | none, none => .ok ()

end CodeAtlas.Glob
