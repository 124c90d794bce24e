import CodeAtlas.Json.Value

/-!
# Reading JSON numbers

The text of a number is a sign, whole digits, a fraction and an exponent. Whole numbers
that fit a machine word are exact. Every other number is taken as a word of leading
digits, scaled by one power of ten: digits that no longer fit the word are dropped, and
the word and the power are each rounded before they are multiplied or divided.
-/

namespace CodeAtlas.JsonNumber

/-- The parts of a number as written. -/
structure Written where
  minus : Bool
  whole : List Nat
  fraction : Option (List Nat)
  /-- Whether the exponent is below zero, and its digits. -/
  exponent : Option (Bool × List Nat)

/-- The digits at the start of a text, and what follows them. -/
def digitsOf (cs : List Char) : List Nat × List Char :=
  ((cs.takeWhile Char.isDigit).map fun c => c.toNat - 48, cs.dropWhile Char.isDigit)

/-- Reads the fraction after a point, at least one digit. -/
def fraction? : List Char → Option (Option (List Nat) × List Char)
  | '.' :: rest =>
    let (digits, rest) := digitsOf rest
    if digits.isEmpty then none else some (some digits, rest)
  | rest => some (none, rest)

/-- Reads the exponent after its mark, at least one digit. -/
def exponent? : List Char → Option (Option (Bool × List Nat) × List Char)
  | [] => some (none, [])
  | mark :: rest =>
    if mark = 'e' ∨ mark = 'E' then
      let (minus, rest) := match rest with
        | '-' :: rest => (true, rest)
        | '+' :: rest => (false, rest)
        | rest => (false, rest)
      let (digits, rest) := digitsOf rest
      if digits.isEmpty then none else some (some (minus, digits), rest)
    else some (none, mark :: rest)

/-- Reads the text of a number. A zero is followed by no other whole digit. -/
def written? (cs : List Char) : Option Written :=
  let (minus, cs) := match cs with
    | '-' :: rest => (true, rest)
    | cs => (false, cs)
  let (whole, rest) := digitsOf cs
  if whole.isEmpty ∨ (whole.head? = some 0 ∧ 1 < whole.length) then none
  else
    (fraction? rest).bind fun (fraction, rest) =>
    (exponent? rest).bind fun (exponent, rest) =>
    if rest.isEmpty then some { minus, whole, fraction, exponent } else none

/-- The largest machine word. -/
def wordMax : Nat := Nat.pow 2 64 - 1

/-- The largest exponent that is kept. -/
def exponentMax : Nat := Nat.pow 2 31 - 1

/-- Appends digits to a word as long as they fit; gives the word and the digits left. -/
def appendDigits (word : Nat) : List Nat → Nat × List Nat
  | [] => (word, [])
  | digit :: digits =>
    if word * 10 + digit ≤ wordMax then appendDigits (word * 10 + digit) digits
    else (word, digit :: digits)

/-- The largest power of ten that is one number. -/
def powerLimit : Nat := 308

/-- Ten to a power, rounded once. -/
def powerOfTen (power : Nat) : Float := Float.ofScientific 1 false power

/-- A float times a power of ten; none when it grows beyond every float. -/
def scale? (x : Float) (power : Int) : Option Float :=
  if power.natAbs ≤ powerLimit then
    if 0 ≤ power then
      let scaled := x * powerOfTen power.natAbs
      if scaled.isInf then none else some scaled
    else some (x / powerOfTen power.natAbs)
  else if x == 0 then some x
  else if 0 ≤ power then none
  else scale? (x / powerOfTen powerLimit) (power + powerLimit)
  termination_by power.natAbs
  decreasing_by simp only [powerLimit] at *; omega

/-- A word times a power of ten, with a sign. -/
def float? (minus : Bool) (word : Nat) (power : Int) : Option JsonNumber :=
  (scale? (UInt64.ofNat word).toFloat power).map fun x =>
    .float (.ofFloat (if minus then -x else x))

/-- A whole number that fits a word. Zero with a sign and numbers below every signed word
are floats. -/
def whole (minus : Bool) (word : Nat) : JsonNumber :=
  if !minus then .natural word
  else if word = 0 ∨ Nat.pow 2 63 < word then .float (.ofFloat (-(UInt64.ofNat word).toFloat))
  else .negative word

/-- The value of a written number; none when it is beyond every float. -/
def Written.value? (number : Written) : Option JsonNumber :=
  let (word, left) := appendDigits 0 number.whole
  if number.fraction.isNone ∧ number.exponent.isNone ∧ left.isEmpty then
    some (JsonNumber.whole number.minus word)
  else
    let fraction := number.fraction.getD []
    let (word, unused) := appendDigits word fraction
    let power : Int := (left.length : Int) - ((fraction.length - unused.length : Nat) : Int)
    match number.exponent with
    | none => float? number.minus word power
    | some (below, digits) =>
      let size := digits.foldl (fun n digit => n * 10 + digit) 0
      if exponentMax < size then
        if word ≠ 0 ∧ !below then none
        else some (.float (.ofFloat (if number.minus then -0.0 else 0.0)))
      else float? number.minus word (if below then power - size else power + size)

end CodeAtlas.JsonNumber
