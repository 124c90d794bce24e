import CodeAtlas.Json.Token
import CodeAtlas.Json.Writer
import Mathlib.Data.List.TakeWhile

/-!
# Written numbers

The text of a number is whole digits, perhaps with a sign before them and a fraction and an
exponent after them. Every number is written as such a text, also one that is not finite, and
every such text can be read.
-/

namespace CodeAtlas

/-! ## Shortest decimals -/

namespace Decimal

/-- Whether a decimal has digits to write before its zeros; zero itself needs none. -/
def Proper (d : Decimal) : Prop := d.digits = 0 → d.exponent = 0

/-- Dropping zeros at the end leaves something before them. -/
theorem Proper.stripZeros {d : Decimal} (proper : d.Proper) (fuel : Nat) :
    (d.stripZeros fuel).Proper := by
  induction fuel generalizing d with
  | zero => exact proper
  | succ fuel ih =>
    unfold Decimal.stripZeros
    split
    · refine ih fun none => ?_
      simp only at none
      omega
    · exact proper

/-- The range of a number other than zero begins above zero. -/
theorem low_ofBinary64_pos {x : Binary64} (some : x.significand ≠ 0) :
    0 < (Rounding.ofBinary64 x).low := by
  unfold Rounding.ofBinary64
  simp only
  refine Nat.mul_pos ?_ (Nat.pow_pos (by decide))
  split <;> omega

/-- A decimal that reads as a number other than zero has digits. -/
theorem digits_atPlace? {range : Rounding} (above : 0 < range.low) {place : Int} {d : Decimal}
    (found : atPlace? range place = some d) : d.digits ≠ 0 := by
  have low : 0 < range.low * Nat.pow 10 (-place).toNat :=
    Nat.mul_pos above (Nat.pow_pos (by decide))
  unfold atPlace? at found
  simp only at found
  -- Zero is below the range, so of the two decimals tried the lower one is not it.
  have positive {n : Nat} (here : (if range.closed = true then
      decide (range.low * Nat.pow 10 (-place).toNat ≤
          n * (range.denominator * Nat.pow 10 place.toNat)) &&
        decide (n * (range.denominator * Nat.pow 10 place.toNat) ≤
          range.high * Nat.pow 10 (-place).toNat)
      else
        decide (range.low * Nat.pow 10 (-place).toNat <
          n * (range.denominator * Nat.pow 10 place.toNat)) &&
        decide (n * (range.denominator * Nat.pow 10 place.toNat) <
          range.high * Nat.pow 10 (-place).toNat)) = true) : n ≠ 0 := by
    rintro rfl
    split at here <;> simp only [Nat.zero_mul, Bool.and_eq_true, decide_eq_true_eq] at here <;>
      omega
  split at found
  · rename_i here _
    cases found
    simp only
    split
    · exact Nat.succ_ne_zero _
    · exact positive here
  · rename_i here _
    cases found
    exact positive here
  · cases found
    exact Nat.succ_ne_zero _
  · cases found

/-- The shortest decimal of a number other than zero is proper. -/
theorem shortest_proper {x : Binary64} (some : x.significand ≠ 0) : (shortest x).Proper := by
  unfold shortest
  refine Proper.stripZeros ?_ 20
  cases found : (List.range 17).findSome? fun i => atPlace? (Rounding.ofBinary64 x)
      (leadingPosition (Rounding.ofBinary64 x).value (Rounding.ofBinary64 x).denominator 330 -
        (i + 1 : Nat)) with
  | none => exact fun _ => rfl
  | some d =>
    obtain ⟨_, _, here⟩ := List.exists_of_findSome?_eq_some found
    exact fun none => absurd none (digits_atPlace? (low_ofBinary64_pos some) here)

end Decimal

/-! ## The text of a number -/

namespace JsonNumber

/-- Whether characters are digits, at least one. -/
structure Digits (text : List Char) : Prop where
  some : text ≠ []
  digits : ∀ c ∈ text, c.isDigit = true

/-- Whole digits: a zero is followed by no other digit. -/
structure IsWhole (text : List Char) : Prop extends Digits text where
  leading : text.head? = .some '0' → text.length = 1

/-- Nothing, or a point and the digits of a fraction. -/
inductive IsFraction : List Char → Prop where
  | none : IsFraction []
  | point {digits : List Char} (fraction : Digits digits) : IsFraction ('.' :: digits)

/-- Nothing, or the digits of an exponent after a mark and a sign. -/
inductive IsExponent : List Char → Prop where
  | none : IsExponent []
  | above {digits : List Char} (exponent : Digits digits) : IsExponent ('e' :: '+' :: digits)
  | below {digits : List Char} (exponent : Digits digits) : IsExponent ('e' :: '-' :: digits)

/-- The text of a number without a sign. -/
inductive IsUnsigned : List Char → Prop where
  | mk {whole fraction exponent : List Char} (digits : IsWhole whole)
    (point : IsFraction fraction) (mark : IsExponent exponent) :
    IsUnsigned (whole ++ (fraction ++ exponent))

/-- The text of a number. -/
inductive IsNumber : List Char → Prop where
  | plain {text : List Char} (unsigned : IsUnsigned text) : IsNumber text
  | minus {text : List Char} (unsigned : IsUnsigned text) : IsNumber ('-' :: text)

variable {text digits rest fraction exponent : List Char}

/-! ## Reading -/

/-- Digits end where something else follows. -/
theorem digitsOf_append (digits : ∀ c ∈ text, c.isDigit = true)
    (stops : ∀ c ∈ rest.head?, c.isDigit = false) :
    digitsOf (text ++ rest) = (text.map fun c => c.toNat - 48, rest) := by
  have taken : rest.takeWhile Char.isDigit = [] := by
    cases rest with
    | nil => rfl
    | cons c rest => rw [List.takeWhile_cons, stops c rfl]; rfl
  have dropped : rest.dropWhile Char.isDigit = rest := by
    cases rest with
    | nil => rfl
    | cons c rest => rw [List.dropWhile_cons, stops c rfl]; rfl
  unfold digitsOf
  rw [List.takeWhile_append_of_pos digits, List.dropWhile_append_of_pos digits, taken, dropped,
    List.append_nil]

/-- Digits alone are read to their end. -/
theorem digitsOf_digits (digits : Digits text) :
    digitsOf text = (text.map fun c => c.toNat - 48, []) := by
  have whole : digitsOf (text ++ []) = _ := digitsOf_append digits.digits (by simp)
  rwa [List.append_nil] at whole

/-- An exponent begins with no digit. -/
theorem IsExponent.stops (mark : IsExponent exponent) :
    ∀ c ∈ exponent.head?, c.isDigit = false := by
  cases mark <;> simp

/-- A fraction begins with no digit, and nor does what follows if there is none. -/
theorem IsFraction.stops (point : IsFraction fraction) (mark : IsExponent exponent) :
    ∀ c ∈ (fraction ++ exponent).head?, c.isDigit = false := by
  cases point with
  | none => exact mark.stops
  | point => simp

/-- An exponent is read. -/
theorem IsExponent.exponent? (mark : IsExponent exponent) :
    ∃ found, JsonNumber.exponent? exponent = some (found, []) := by
  cases mark with
  | none => exact ⟨_, rfl⟩
  | above digits =>
    simp [JsonNumber.exponent?, digitsOf_digits digits, digits.some]
  | below digits => simp [JsonNumber.exponent?, digitsOf_digits digits, digits.some]

/-- A fraction is read up to the exponent. -/
theorem IsFraction.fraction? (point : IsFraction fraction) (mark : IsExponent exponent) :
    ∃ found, JsonNumber.fraction? (fraction ++ exponent) = some (found, exponent) := by
  cases point with
  | none =>
    cases mark <;> exact ⟨_, rfl⟩
  | point digits =>
    simp [JsonNumber.fraction?, digitsOf_append digits.digits mark.stops, digits.some]

/-- Whole digits are as they should be. -/
theorem IsWhole.accepted (whole : IsWhole text) :
    ¬((text.map fun c => c.toNat - 48).isEmpty = true ∨
      ((text.map fun c => c.toNat - 48).head? = some 0 ∧
        1 < (text.map fun c => c.toNat - 48).length)) := by
  obtain ⟨c, others, rfl⟩ := List.exists_cons_of_ne_nil whole.some
  rintro (none | ⟨zero, long⟩)
  · cases none
  · have digit := whole.digits c List.mem_cons_self
    have same : c = '0' := by
      simp only [List.map_cons, List.head?_cons, Option.some.injEq] at zero
      simp only [Char.isDigit, Bool.and_eq_true, decide_eq_true_eq] at digit
      apply Char.toNat_inj.mp
      have least : '0'.toNat ≤ c.toNat := digit.1
      change c.toNat = 48
      change 48 ≤ c.toNat at least
      omega
    have single := whole.leading (by rw [same]; rfl)
    rw [List.length_map] at long
    omega

/-- The text of a number without a sign is read part by part. -/
theorem IsUnsigned.parts (unsigned : IsUnsigned text) :
    ∃ whole afterWhole fraction afterFraction exponent,
      digitsOf text = (whole, afterWhole) ∧
      ¬(whole.isEmpty = true ∨ (whole.head? = some 0 ∧ 1 < whole.length)) ∧
      JsonNumber.fraction? afterWhole = some (fraction, afterFraction) ∧
      JsonNumber.exponent? afterFraction = some (exponent, []) := by
  obtain ⟨digits, point, mark⟩ := unsigned
  obtain ⟨_, readFraction⟩ := point.fraction? mark
  obtain ⟨_, readExponent⟩ := mark.exponent?
  exact ⟨_, _, _, _, _, digitsOf_append digits.digits (point.stops mark), digits.accepted,
    readFraction, readExponent⟩

/-- The text of a number without a sign begins with none. -/
theorem not_isUnsigned_minus : ¬IsUnsigned ('-' :: text) := by
  intro unsigned
  generalize same : '-' :: text = all at unsigned
  obtain ⟨digits, _, _⟩ := unsigned
  obtain ⟨c, others, rfl⟩ := List.exists_cons_of_ne_nil digits.some
  obtain ⟨rfl, _⟩ := List.cons.inj same
  exact absurd (digits.digits _ List.mem_cons_self) (by decide)

/-- Every text of a number is read. -/
theorem IsNumber.written? (number : IsNumber text) : (written? text).isSome = true := by
  cases number with
  | plain unsigned =>
    obtain ⟨_, _, _, _, _, whole, accepted, fraction, exponent⟩ := unsigned.parts
    unfold JsonNumber.written?
    split
    rename_i read
    split at read
    · exact absurd unsigned not_isUnsigned_minus
    · cases read
      simp only [whole, if_neg accepted, fraction, exponent, Option.bind_some]
      rfl
  | minus unsigned =>
    obtain ⟨_, _, _, _, _, whole, accepted, fraction, exponent⟩ := unsigned.parts
    unfold JsonNumber.written?
    simp only [whole, if_neg accepted, fraction, exponent, Option.bind_some]
    rfl

/-! ## Writing -/

/-- Digits that do not begin with a zero are whole. -/
theorem Digits.isWhole (digits : Digits text) (some : text.head? ≠ .some '0') : IsWhole text :=
  ⟨digits, fun zero => absurd zero some⟩

/-- Digits after digits are digits. -/
theorem Digits.append (digits : Digits text) (more : ∀ c ∈ rest, c.isDigit = true) :
    Digits (text ++ rest) :=
  ⟨List.append_ne_nil_of_left_ne_nil digits.some rest, fun c member =>
    (List.mem_append.mp member).elim (digits.digits c) (more c)⟩

/-- A single zero is whole. -/
theorem isWhole_zero : IsWhole ['0'] :=
  ⟨⟨List.cons_ne_nil _ _, by simp⟩, fun _ => rfl⟩

/-- Zeros are digits. -/
theorem isDigit_of_mem_replicate {n : Nat} : ∀ c ∈ List.replicate n '0', c.isDigit = true := by
  intro c member
  rw [(List.mem_replicate.mp member).2]
  rfl

/-- A whole number is written in digits. -/
theorem digits_writeNat (n : Nat) : Digits (Json.writeNat n) :=
  ⟨Nat.toDigits_ne_nil, fun _ member => Nat.isDigit_of_mem_toDigits (by decide) (by decide) member⟩

/-- A number other than zero is written without a zero at its start. -/
theorem head?_writeNat {n : Nat} (some : n ≠ 0) : (Json.writeNat n).head? ≠ .some '0' := by
  have digit : ∀ n < 10, n ≠ 0 → Nat.digitChar n ≠ '0' := by decide
  induction n using Nat.strongRecOn with
  | ind n ih =>
    unfold Json.writeNat
    rw [Nat.toDigits_eq_if (by decide)]
    split
    · rename_i small
      simpa using digit n small some
    · rename_i large
      have first := ih (n / 10) (by omega) (by omega)
      obtain ⟨c, others, written⟩ :=
        List.exists_cons_of_ne_nil (Nat.toDigits_ne_nil (n := n / 10) (b := 10))
      rw [Json.writeNat, written] at first
      rw [written]
      exact first

/-- A whole number is written in whole digits. -/
theorem isWhole_writeNat (n : Nat) : IsWhole (Json.writeNat n) := by
  by_cases zero : n = 0
  · subst zero
    exact isWhole_zero
  · exact (digits_writeNat n).isWhole (head?_writeNat zero)

/-- An exponent is written with its sign. -/
theorem isExponent_writeExponent (power : Int) : IsExponent ('e' :: Json.writeExponent power) := by
  cases power with
  | ofNat n => exact .above (digits_writeNat n)
  | negSucc n => exact .below (digits_writeNat (n + 1))

/-- The digits of a proper decimal with zeros after them are whole. -/
theorem isWhole_zeros {d : Decimal} (proper : d.Proper) :
    IsWhole (Json.writeNat d.digits ++ List.replicate d.exponent.toNat '0') := by
  by_cases zero : d.digits = 0
  · rw [proper zero, Int.toNat_zero, List.replicate_zero, List.append_nil]
    exact isWhole_writeNat d.digits
  · have digits := digits_writeNat d.digits
    obtain ⟨c, others, written⟩ := List.exists_cons_of_ne_nil digits.some
    refine (digits.append isDigit_of_mem_replicate).isWhole ?_
    have first := head?_writeNat zero
    rw [written] at first ⊢
    exact first

/-- The first digits of a decimal are whole if its point stands among them. -/
theorem isWhole_take {n point : Nat} (some : n ≠ 0) (positive : 0 < point) :
    IsWhole ((Json.writeNat n).take point) := by
  have digits := digits_writeNat n
  have first := head?_writeNat some
  obtain ⟨c, others, written⟩ := List.exists_cons_of_ne_nil digits.some
  obtain ⟨before, rfl⟩ := Nat.exists_eq_succ_of_ne_zero (Nat.ne_of_gt positive)
  refine Digits.isWhole ⟨?_, fun c member => digits.digits c (List.mem_of_mem_take member)⟩ ?_
  · rw [written]
    exact List.cons_ne_nil _ _
  · rw [written] at first ⊢
    exact first

/-- The last digits of a number are digits if there are any. -/
theorem digits_drop {n point : Nat} (some : (Json.writeNat n).drop point ≠ []) :
    Digits ((Json.writeNat n).drop point) :=
  ⟨some, fun c member => (digits_writeNat n).digits c (List.mem_of_mem_drop member)⟩

/-- The digits after the first, if there are any, are a fraction. -/
theorem isFraction_drop (n : Nat) :
    IsFraction (if ((Json.writeNat n).drop 1).isEmpty then []
      else '.' :: (Json.writeNat n).drop 1) := by
  split
  · exact .none
  · rename_i some
    exact .point (digits_drop fun none => some (by rw [none]; rfl))

/-- The first digit of a number is whole. -/
theorem isWhole_first (n : Nat) : IsWhole ((Json.writeNat n).take 1) := by
  have digits := digits_writeNat n
  obtain ⟨c, others, written⟩ := List.exists_cons_of_ne_nil digits.some
  refine ⟨⟨?_, fun c member => digits.digits c (List.mem_of_mem_take member)⟩, fun _ => ?_⟩ <;>
    rw [written]
  · exact List.cons_ne_nil _ _
  · rfl

/-- A proper decimal is written as a number. -/
theorem isUnsigned_writeDecimal {d : Decimal} (proper : d.Proper) :
    IsUnsigned (Json.writeDecimal d) := by
  have digits := digits_writeNat d.digits
  unfold Json.writeDecimal
  simp only
  split
  · exact .mk (isWhole_zeros proper) (.point isWhole_zero.toDigits) .none
  · rename_i positional
    split
    · rename_i among
      -- The point stands among the digits, so the exponent is below zero.
      have some : d.digits ≠ 0 := fun zero => by
        have none := proper zero
        omega
      have last : (Json.writeNat d.digits).drop
          ((Json.writeNat d.digits).length + d.exponent).toNat ≠ [] := by
        rw [ne_eq, List.drop_eq_nil_iff]
        omega
      simpa using IsUnsigned.mk (isWhole_take some (by omega)) (.point (digits_drop last)) .none
    · split
      · have zeros := isDigit_of_mem_replicate
          (n := (-((Json.writeNat d.digits).length + d.exponent)).toNat)
        have fraction : Digits (List.replicate
            (-((Json.writeNat d.digits).length + d.exponent)).toNat '0' ++
              Json.writeNat d.digits) :=
          ⟨List.append_ne_nil_of_right_ne_nil _ digits.some, fun c member =>
            (List.mem_append.mp member).elim (zeros c) (digits.digits c)⟩
        simpa using IsUnsigned.mk isWhole_zero (.point fraction) .none
      · simpa using IsUnsigned.mk (isWhole_first d.digits) (isFraction_drop d.digits)
          (isExponent_writeExponent ((Json.writeNat d.digits).length + d.exponent - 1))

/-- A floating-point number is written as a number. -/
theorem isNumber_writeFloat (x : Binary64) : IsNumber (Json.writeFloat x) := by
  have unsigned : IsUnsigned (if x.significand = 0 then ['0', '.', '0']
      else Json.writeDecimal (Decimal.shortest x)) := by
    split
    · exact .mk isWhole_zero (.point isWhole_zero.toDigits) .none
    · rename_i some
      exact isUnsigned_writeDecimal (Decimal.shortest_proper some)
  unfold Json.writeFloat
  split
  · exact .minus unsigned
  · exact .plain unsigned

/-- Every number is written as a number. -/
theorem isNumber_writeNumber (number : JsonNumber) : IsNumber (Json.writeNumber number) := by
  have whole (n : Nat) : IsUnsigned (Json.writeNat n) := by
    have parts : IsUnsigned (Json.writeNat n ++ ([] ++ [])) := .mk (isWhole_writeNat n) .none .none
    rwa [List.append_nil, List.append_nil] at parts
  cases number with
  | natural n => exact .plain (whole n)
  | negative n => exact .minus (whole n)
  | float x => exact isNumber_writeFloat x

end JsonNumber

end CodeAtlas
