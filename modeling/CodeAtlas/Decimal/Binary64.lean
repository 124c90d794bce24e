/-!
# Binary floating-point numbers

A number of the 64-bit binary interchange format, kept by its bits so that two of them
are equal exactly when they are the same number with the same sign. Decoding splits the
bits into sign, significand and exponent; the arithmetic needed for reading decimals is
that of the machine.
-/

namespace CodeAtlas

/-- A 64-bit binary floating-point number. -/
structure Binary64 where
  bits : UInt64
  deriving DecidableEq, Repr

namespace Binary64

/-- The number of a machine float. -/
def ofFloat (x : Float) : Binary64 := ⟨x.toBits⟩

/-- Whether the sign bit is set. -/
def isNegative (x : Binary64) : Bool := x.bits >>> 63 == 1

/-- The eleven bits of the biased exponent. -/
def biasedExponent (x : Binary64) : Nat := ((x.bits >>> 52) &&& 0x7FF).toNat

/-- The 52 stored bits of the significand. -/
def fraction (x : Binary64) : Nat := (x.bits &&& 0xFFFFFFFFFFFFF).toNat

/-- The whole significand: a number is its significand times two to its exponent. -/
def significand (x : Binary64) : Nat :=
  if x.biasedExponent = 0 then x.fraction else x.fraction + Nat.pow 2 52

/-- The exponent that goes with the significand. -/
def exponent (x : Binary64) : Int := (max x.biasedExponent 1 : Nat) - 1075

/-- Whether the number below is only half as far away as the number above: so it is at
a power of two, the smallest apart. -/
def narrowBelow (x : Binary64) : Bool := x.fraction = 0 && 1 < x.biasedExponent

end Binary64

end CodeAtlas
