import CodeAtlas.Decimal.Binary64

/-!
# Shortest decimals

The shortest decimal of a positive number is the one with the fewest digits among those
that read back as the number; of several, the nearest one, and of two equally near the
one with an even last digit. For each count of digits only the two decimals around the
number need to be tried. All arithmetic is on natural numbers.
-/

namespace CodeAtlas

/-- A decimal: digits times ten to the power of the exponent. -/
structure Decimal where
  digits : Nat
  exponent : Int
  deriving DecidableEq, Repr

namespace Decimal

/-- A number with the range of the reals that read as it, all over one denominator. -/
structure Rounding where
  low : Nat
  value : Nat
  high : Nat
  denominator : Nat
  /-- Whether the ends of the range read as the number too. -/
  closed : Bool

/-- The rounding range of a positive number. -/
def Rounding.ofBinary64 (x : Binary64) : Rounding :=
  let m := 4 * x.significand
  let low := if x.narrowBelow then m - 1 else m - 2
  let shift := x.exponent - 2
  let scale := Nat.pow 2 shift.toNat
  { low := low * scale
    value := m * scale
    high := (m + 2) * scale
    denominator := Nat.pow 2 (-shift).toNat
    closed := x.significand % 2 = 0 }

/-- The number of digits before the decimal point of `value / denominator`; negative or
zero when the first digit stands after zeros. `fuel` bounds the zeros. -/
def leadingPosition (value denominator : Nat) : (fuel : Nat) → Int
  | 0 => 0
  | fuel + 1 =>
    if denominator ≤ value then (Nat.toDigits 10 (value / denominator)).length
    else leadingPosition (value * 10) denominator fuel - 1

/-- The decimal of the given last place that reads as the number, if there is one. -/
def atPlace? (range : Rounding) (place : Int) : Option Decimal :=
  let up := Nat.pow 10 (-place).toNat
  let denominator := range.denominator * Nat.pow 10 place.toNat
  let value := range.value * up
  let inside (n : Nat) : Bool :=
    if range.closed then range.low * up ≤ n * denominator && n * denominator ≤ range.high * up
    else range.low * up < n * denominator && n * denominator < range.high * up
  let below := value / denominator
  let rest := 2 * (value % denominator)
  let preferAbove := denominator < rest || (rest == denominator && below % 2 == 1)
  match inside below, inside (below + 1) with
  | true, true => some ⟨if preferAbove then below + 1 else below, place⟩
  | true, false => some ⟨below, place⟩
  | false, true => some ⟨below + 1, place⟩
  | false, false => none

/-- Drops zeros at the end of the digits; `fuel` bounds their number. -/
def stripZeros (d : Decimal) : (fuel : Nat) → Decimal
  | 0 => d
  | fuel + 1 =>
    if d.digits ≠ 0 ∧ d.digits % 10 = 0 then
      stripZeros ⟨d.digits / 10, d.exponent + 1⟩ fuel
    else d

/-- The shortest decimal of a finite number other than zero; seventeen digits always
suffice. -/
def shortest (x : Binary64) : Decimal :=
  let range := Rounding.ofBinary64 x
  let position := leadingPosition range.value range.denominator 330
  let found := (List.range 17).findSome? fun i => atPlace? range (position - (i + 1 : Nat))
  (found.getD ⟨0, 0⟩).stripZeros 20

end Decimal

end CodeAtlas
