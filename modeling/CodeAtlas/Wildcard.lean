import CodeAtlas.Marks

/-!
# Wildcard patterns

A wildcard pattern is matched against the bytes of a path, as a whole. A question mark
stands for one byte and a star for any run of bytes, neither of them across a separator. Two
stars or more that stand for whole components cross separators. A bracket opens a set of
bytes, by themselves, in ranges or by the name of a class, and a backslash takes the meaning
from what follows it. A pattern in which a set is not closed, or nothing follows a backslash,
matches nothing.

Patterns are read from characters that stand for one byte each. A pattern may ignore case:
then the letters of the path are lowered, and so are those of the pattern that stand for
themselves, outside of sets and without a backslash.
-/

namespace CodeAtlas.Wildcard

/-- What a set may hold. -/
inductive Member where
  | single (member : UInt8)
  | range (low high : UInt8)
  /-- A class of characters of ASCII. -/
  | named (holds : Char → Bool)

/-- One element of a pattern. -/
inductive Token where
  /-- A byte that stands for itself. -/
  | literal (value : UInt8)
  /-- `?`: one byte that is no separator. -/
  | any
  /-- `*`: a run of bytes without a separator. -/
  | star
  /-- `**/` before a component: nothing, or components up to a separator. -/
  | components
  /-- `**` that ends a pattern or stands before an escaped separator. -/
  | anything
  /-- `[...]`: one byte that is no separator and in the set, or not in it. -/
  | oneOf (negated : Bool) (members : List Member)

/-- The byte that a character stands for. -/
def byteOf (c : Char) : UInt8 := c.toNat.toUInt8

/-- Whether a character of ASCII is printed and takes up space. -/
def isMark (c : Char) : Bool := '!' ≤ c && c ≤ '~'

/-- The classes that a set may name. -/
def classes : List (String × (Char → Bool)) :=
  [("alnum", Char.isAlphanum), ("alpha", Char.isAlpha), ("blank", fun c => c = ' ' || c = '\t'),
   ("cntrl", fun c => c < ' ' || c = '\x7f'), ("digit", Char.isDigit), ("graph", isMark),
   ("lower", Char.isLower), ("print", fun c => isMark c || c = ' '),
   ("punct", fun c => isMark c && !c.isAlphanum),
   ("space", fun c => c = ' ' || ('\t' ≤ c && c ≤ '\r')), ("upper", Char.isUpper),
   ("xdigit", fun c => c.isDigit || ('a' ≤ c && c ≤ 'f') || ('A' ≤ c && c ≤ 'F'))]

/-! ## Reading -/

/-- How the next character of a set is taken. -/
inductive Awaited where
  /-- As it stands. -/
  | member
  /-- As a member, behind a backslash. -/
  | escaped
  /-- As the upper end of a range. -/
  | upper (low : UInt8)
  /-- As the upper end of a range, behind a backslash. -/
  | escapedUpper (low : UInt8)
  /-- As part of what names a class that has been taken already. -/
  | skipped (count : Nat)

/-- A set whose closing bracket has not been met. -/
structure OpenSet where
  negated : Bool := false
  /-- Whether nothing has been read since the opening bracket. -/
  opened : Bool := true
  /-- Whether there is no member yet, so that a closing bracket is one. -/
  first : Bool := true
  /-- The byte that a dash after it makes the lower end of a range. -/
  low? : Option UInt8 := none
  members : List Member := []
  awaited : Awaited := .member

namespace OpenSet

/-- A set with one more member. -/
def add (set : OpenSet) (member : Member) (low? : Option UInt8) : OpenSet :=
  { set with members := member :: set.members, low?, opened := false, first := false,
             awaited := .member }

/-- A set with a byte that stands by itself. -/
def addByte (set : OpenSet) (c : Char) : OpenSet :=
  set.add (.single (byteOf c)) (some (byteOf c))

/-- A set that waits for a character. -/
def await (set : OpenSet) (awaited : Awaited) : OpenSet :=
  { set with awaited, opened := false, first := false }

/-- The name of a class between colons that begins right before `rest`, with `none` for one
that nothing is known under. -/
def className? (rest : List Char) : Option (String × Option (Char → Bool)) :=
  match rest with
  | ':' :: rest =>
    match (rest.takeWhile (· ≠ ']')).reverse with
    | ':' :: name =>
      let name := String.ofList name.reverse
      some (name, (classes.find? fun cls => cls.1 = name).map Prod.snd)
    | _ => none
  | _ => none

/-- A set with one more character as a member, before `rest`; none when the pattern can
match nothing. -/
def member? (set : OpenSet) (c : Char) (rest : List Char) : Option OpenSet :=
  let dashed := c = '-' && rest.head?.any (· ≠ ']')
  match c, set.low?, dashed, className? rest with
  | '\\', _, _, _ => some (set.await .escaped)
  | _, some low, true, _ => some (set.await (.upper low))
  | '[', _, _, some (_, none) => none
  | '[', _, _, some (name, some holds) =>
    some { set.add (.named holds) none with awaited := .skipped (name.length + 3) }
  | c, _, _, _ => some (set.addByte c)

/-- A set after one more character that does not close it, before `rest`. -/
def push? (set : OpenSet) (c : Char) (rest : List Char) : Option OpenSet :=
  match set.awaited with
  | .escaped => some (set.addByte c)
  | .upper low =>
    if c = '\\' then some (set.await (.escapedUpper low))
    else some (set.add (.range low (byteOf c)) none)
  | .escapedUpper low => some (set.add (.range low (byteOf c)) none)
  | .skipped (count + 2) => some { set with awaited := .skipped (count + 1) }
  | .skipped _ => some { set with awaited := .member }
  | .member =>
    if set.opened && (c = '!' || c = '^') then some { set with negated := true, opened := false }
    else set.member? c rest

/-- Whether a character closes a set. -/
def isClosedBy (set : OpenSet) (c : Char) : Bool :=
  match set.awaited with
  | .member => c = ']' && !set.first
  | _ => false

end OpenSet

/-- What two stars or more stand for between `before` and `rest`. -/
def stars (before : Option Char) (rest : List Char) : Token :=
  if before.all (· = '/') then
    match rest with
    | [] => .anything
    | '/' :: _ => .components
    | '\\' :: '/' :: _ => .anything
    | _ => .star
  else .star

/-- The tokens of a run of stars between `before` and `rest`. -/
def runTokens (run : Nat) (before : Option Char) (rest : List Char) : List Token :=
  match run with
  | 0 => []
  | 1 => [.star]
  | _ => [stars before rest]

/-- Reads the rest of a pattern; none when it can match nothing. The `run` of stars right
before is not yet taken, and `before` is what stands in front of it. -/
def scan (ignoringCase : Bool) (set? : Option OpenSet) (run : Nat) (before : Option Char) :
    List Char → Option (List Token)
  | [] =>
    match set? with
    | some _ => none
    | none => some (runTokens run before [])
  | c :: rest =>
    match set? with
    | some set =>
      if set.isClosedBy c then do
        let others ← scan ignoringCase none 0 (some c) rest
        return .oneOf set.negated set.members :: others
      else do
        let set ← set.push? c rest
        scan ignoringCase (some set) 0 (some c) rest
    | none =>
      if c = '*' then scan ignoringCase none (run + 1) before rest
      else
        let taken := runTokens run before (c :: rest)
        match taken, c with
        | [.components], _ => do return .components :: (← scan ignoringCase none 0 (some c) rest)
        | _, '?' => do return taken ++ .any :: (← scan ignoringCase none 0 (some c) rest)
        | _, '[' => do return taken ++ (← scan ignoringCase (some {}) 0 (some c) rest)
        | _, '\\' =>
          match rest with
          | [] => none
          | c :: rest => do
            let others ← scan ignoringCase none 0 (some c) rest
            return taken ++ .literal (byteOf c) :: others
        | _, _ => do
          let others ← scan ignoringCase none 0 (some c) rest
          return taken ++ .literal (byteOf (if ignoringCase then c.toLower else c)) :: others

/-! ## Matching -/

/-- Whether a byte is a separator. -/
def isSeparator (byte : UInt8) : Bool := byte = Marks.separator

/-- Whether a member of a set is a byte or holds it. A range also holds a lower letter whose
upper one is in it, when case is ignored. -/
def Member.holds (ignoringCase : Bool) (byte : UInt8) : Member → Bool
  | .single member => byte = member
  | .range low high =>
    let upper := byteOf (Char.ofNat byte.toNat).toUpper
    (low ≤ byte && byte ≤ high) || (ignoringCase && low ≤ upper && upper ≤ high && byte ≠ upper)
  | .named holds => byte < 0x80 && holds (Char.ofNat byte.toNat)

/-- The marks after a token. -/
def Token.advance (ignoringCase : Bool) (path : List UInt8) : Token → Marks → Marks
  | .literal value, marks => Marks.step (· == value) path marks
  | .any, marks => Marks.step (!isSeparator ·) path marks
  | .star, marks => Marks.run (!isSeparator ·) false path marks
  | .components, marks => Marks.components path marks
  | .anything, marks => Marks.anything path marks
  | .oneOf negated members, marks =>
    let held (byte : UInt8) : Bool := members.any (Member.holds ignoringCase byte)
    Marks.step (fun byte => !isSeparator byte && held byte != negated) path marks

/-- Whether a pattern matches a whole path. -/
def isMatch (ignoringCase : Bool) (pattern : List Char) (path : List UInt8) : Bool :=
  match scan ignoringCase none 0 none pattern with
  | none => false
  | some tokens =>
    let lowered (byte : UInt8) : UInt8 := byteOf (Char.ofNat byte.toNat).toLower
    let path := if ignoringCase then path.map lowered else path
    let marks := tokens.foldl (fun marks token => token.advance ignoringCase path marks)
      (Marks.start path)
    marks.atEnd

end CodeAtlas.Wildcard
