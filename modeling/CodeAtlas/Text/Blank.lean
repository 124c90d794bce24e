/-!
# Blank characters

The characters with the Unicode property `White_Space`. Trimming, blank-text
tests and comment gutters all use this one class, so a zero-width space or a
byte-order mark is content, while a no-break space is not.
-/

namespace CodeAtlas

/-- The inclusive code-point ranges of the property `White_Space`. -/
def blankRanges : List (Nat × Nat) :=
  [(0x09, 0x0D), (0x20, 0x20), (0x85, 0x85), (0xA0, 0xA0), (0x1680, 0x1680),
   (0x2000, 0x200A), (0x2028, 0x2029), (0x202F, 0x202F), (0x205F, 0x205F), (0x3000, 0x3000)]

/-- Whether a character is white space. -/
def isBlankChar (c : Char) : Bool :=
  blankRanges.any fun range => range.1 ≤ c.toNat && c.toNat ≤ range.2

end CodeAtlas
