import CodeAtlas.Json.Value

/-!
# Writing JSON

A value is written on one line without blanks, or over several lines with two blanks
for each level. Strings escape quotes, backslashes and control characters and nothing
else, so a written value holds no raw line feed outside the breaks of the long form.
-/

namespace CodeAtlas.Json

/-- A hexadecimal digit below sixteen. -/
def hexDigit (n : Nat) : Char :=
  if n < 10 then Char.ofNat (48 + n) else Char.ofNat (87 + n)

/-- A character as it stands in a string. -/
def escapeChar (c : Char) : List Char :=
  match c with
  | '"' => ['\\', '"']
  | '\\' => ['\\', '\\']
  | '\n' => ['\\', 'n']
  | '\r' => ['\\', 'r']
  | '\t' => ['\\', 't']
  | c =>
    if c.toNat = 8 then ['\\', 'b']
    else if c.toNat = 12 then ['\\', 'f']
    else if c.toNat < 32 then
      ['\\', 'u', '0', '0', hexDigit (c.toNat / 16), hexDigit (c.toNat % 16)]
    else [c]

/-- A text between quotes, escaped. -/
def writeString (s : String) : List Char :=
  '"' :: s.toList.flatMap escapeChar ++ ['"']

/-- A whole number in decimal. -/
def writeNat (n : Nat) : List Char := Nat.toDigits 10 n

/-- A whole number in decimal, with a sign when it is below zero. -/
def writeInt : Int → List Char
  | .ofNat n => writeNat n
  | .negSucc n => '-' :: writeNat (n + 1)

/-- An exponent in decimal, always with a sign. -/
def writeExponent : Int → List Char
  | .ofNat n => '+' :: writeNat n
  | .negSucc n => '-' :: writeNat (n + 1)

/-- The largest number of digits before the point that is written without an exponent. -/
def positionalLimit : Int := 16

/-- The number of zeros after the point from which on an exponent is written. -/
def smallLimit : Int := 5

/-- A decimal as text: positional for middling sizes, else with an exponent. -/
def writeDecimal (d : Decimal) : List Char :=
  let digits := writeNat d.digits
  let count : Int := digits.length
  let point := count + d.exponent
  if 0 ≤ d.exponent ∧ point ≤ positionalLimit then
    digits ++ List.replicate d.exponent.toNat '0' ++ ['.', '0']
  else if 0 < point ∧ point ≤ positionalLimit then
    digits.take point.toNat ++ ['.'] ++ digits.drop point.toNat
  else if -smallLimit < point ∧ point ≤ 0 then
    ['0', '.'] ++ List.replicate (-point).toNat '0' ++ digits
  else
    let fraction := digits.drop 1
    digits.take 1 ++ (if fraction.isEmpty then [] else '.' :: fraction) ++ ['e']
      ++ writeExponent (point - 1)

/-- A finite floating-point number as the shortest text that reads back. -/
def writeFloat (x : Binary64) : List Char :=
  (if x.isNegative then ['-'] else [])
    ++ (if x.significand = 0 then ['0', '.', '0'] else writeDecimal (Decimal.shortest x))

/-- A number as text. -/
def writeNumber : JsonNumber → List Char
  | .natural n => writeNat n
  | .negative n => '-' :: writeNat n
  | .float x => writeFloat x

mutual

/-- A value on one line. -/
def compactChars : Json → List Char
  | .null => ['n', 'u', 'l', 'l']
  | .bool true => ['t', 'r', 'u', 'e']
  | .bool false => ['f', 'a', 'l', 's', 'e']
  | .number n => writeNumber n
  | .string s => writeString s
  | .array [] => ['[', ']']
  | .array (item :: items) => '[' :: compactChars item ++ compactItems items ++ [']']
  | .object [] => ['\x7b', '\x7d']
  | .object ((name, value) :: fields) =>
    '\x7b' :: writeString name ++ [':'] ++ compactChars value ++ compactFields fields ++ ['\x7d']

/-- Further items on one line. -/
def compactItems : List Json → List Char
  | [] => []
  | item :: items => ',' :: compactChars item ++ compactItems items

/-- Further fields on one line. -/
def compactFields : List (String × Json) → List Char
  | [] => []
  | (name, value) :: fields =>
    ',' :: writeString name ++ [':'] ++ compactChars value ++ compactFields fields

end

/-- A line break and the indentation of a level. -/
def lineBreak (level : Nat) : List Char := '\n' :: List.replicate (2 * level) ' '

mutual

/-- A value over several lines, at a level of indentation. -/
def prettyChars (level : Nat) : Json → List Char
  | .null => ['n', 'u', 'l', 'l']
  | .bool true => ['t', 'r', 'u', 'e']
  | .bool false => ['f', 'a', 'l', 's', 'e']
  | .number n => writeNumber n
  | .string s => writeString s
  | .array [] => ['[', ']']
  | .array (item :: items) =>
    '[' :: lineBreak (level + 1) ++ prettyChars (level + 1) item ++ prettyItems (level + 1) items
      ++ lineBreak level ++ [']']
  | .object [] => ['\x7b', '\x7d']
  | .object ((name, value) :: fields) =>
    '\x7b' :: lineBreak (level + 1) ++ writeString name ++ [':', ' ']
      ++ prettyChars (level + 1) value ++ prettyFields (level + 1) fields ++ lineBreak level
      ++ ['\x7d']

/-- Further items, each on a line of its own. -/
def prettyItems (level : Nat) : List Json → List Char
  | [] => []
  | item :: items => ',' :: lineBreak level ++ prettyChars level item ++ prettyItems level items

/-- Further fields, each on a line of its own. -/
def prettyFields (level : Nat) : List (String × Json) → List Char
  | [] => []
  | (name, value) :: fields =>
    ',' :: lineBreak level ++ writeString name ++ [':', ' '] ++ prettyChars level value
      ++ prettyFields level fields

end

/-- A value on one line. -/
def compact (value : Json) : String := String.ofList value.compactChars

/-- A value over several lines. -/
def pretty (value : Json) : String := String.ofList (value.prettyChars 0)

end CodeAtlas.Json
