import CodeAtlas.Text.Shape

/-!
# Quoted texts in messages

A message shows a text between double quotes. Quotes and backslashes are escaped, and
characters without a shape of their own are shown by their code point in braces.
-/

namespace CodeAtlas.Text

/-- A number in lower-case hexadecimal without leading zeros. -/
def hexNumber (n : Nat) : String := String.ofList (Nat.toDigits 16 n)

/-- A character as it stands in a quoted text. -/
def quoteChar (c : Char) : String :=
  match c with
  | '\t' => "\\t"
  | '\r' => "\\r"
  | '\n' => "\\n"
  | '"' => "\\\""
  | '\\' => "\\\\"
  | c =>
    if c.toNat = 0 then "\\0"
    else if c.toNat < 32 ∨ c.toNat = 127 ∨ isShownByCode c then
      "\\u\x7b" ++ hexNumber c.toNat ++ "\x7d"
    else c.toString

/-- A text between double quotes. -/
def quoted (s : String) : String :=
  "\"" ++ String.join (s.toList.map quoteChar) ++ "\""

end CodeAtlas.Text
