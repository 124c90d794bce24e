import CodeAtlas.Proofs.Json.Tokens

/-!
# No control characters

A value written on one line holds no control character: strings escape them, and nothing else
of a value is written with any. So it holds no line feed, whatever texts stand in it.
-/

namespace CodeAtlas

namespace Chars

/-- Whether a text holds no control character. -/
def Printable (text : List Char) : Prop := ∀ c ∈ text, 32 ≤ c.toNat

/-- Whether a text holds no control character is decidable. -/
instance (text : List Char) : Decidable (Printable text) :=
  List.decidableBAll _ text

/-- Two texts hold no control character together if neither does. -/
theorem Printable.append {first second : List Char} (left : Printable first)
    (right : Printable second) : Printable (first ++ second) := fun c member =>
  (List.mem_append.mp member).elim (left c) (right c)

/-- A character in front that is no control character changes nothing. -/
theorem Printable.cons {c : Char} {text : List Char} (visible : 32 ≤ c.toNat)
    (rest : Printable text) : Printable (c :: text) := List.forall_mem_cons.mpr ⟨visible, rest⟩

/-- A text without control characters is one line. -/
theorem Printable.single {text : List Char} (printable : Printable text) : '\n' ∉ text :=
  fun member => absurd (printable '\n' member) (by decide)

end Chars

namespace Json

open Chars (Printable)

/-- What is part of a word is no control character. -/
theorem printable_of_isWordChar {text : List Char}
    (word : ∀ c ∈ text, JsonToken.isWordChar c = true) : Printable text := by
  intro c member
  by_contra small
  have code : c.toNat < 32 := by omega
  have none : ∀ n < 32, JsonToken.isWordChar (Char.ofNat n) = false := by decide
  have control := none c.toNat code
  rw [Char.ofNat_toNat, word c member] at control
  cases control

/-- A colon is no control character. -/
theorem printable_colon : Printable [':'] := by decide

/-- A hexadecimal digit is no control character. -/
theorem hexDigit_printable : ∀ n < 16, 32 ≤ (hexDigit n).toNat := by decide

/-- An escaped character holds no control character. -/
theorem printable_escapeChar (c : Char) : Printable (escapeChar c) := by
  unfold escapeChar
  split
  · decide
  · decide
  · decide
  · decide
  · decide
  · split
    · decide
    · split
      · decide
      · split
        · have high := hexDigit_printable (c.toNat / 16) (by omega)
          have low := hexDigit_printable (c.toNat % 16) (by omega)
          have lead : Printable ['\\', 'u', '0', '0'] := by decide
          exact lead.append (List.forall_mem_cons.mpr ⟨high, List.forall_mem_singleton.mpr low⟩)
        · rename_i large
          exact List.forall_mem_singleton.mpr (Nat.le_of_not_lt large)

/-- A written text holds no control character. -/
theorem printable_writeString (s : String) : Printable (writeString s) := by
  have quote : Printable ['"'] := by decide
  refine quote.append (Printable.append (fun c member => ?_) quote)
  obtain ⟨written, _, inside⟩ := List.mem_flatMap.mp member
  exact printable_escapeChar written c inside

/-- A written number holds no control character. -/
theorem printable_writeNumber (number : JsonNumber) : Printable (writeNumber number) :=
  printable_of_isWordChar
    (JsonToken.isWordChar_of_isNumber (JsonNumber.isNumber_writeNumber number))

mutual

/-- A value on one line holds no control character. -/
theorem printable_compactChars (value : Json) : Printable value.compactChars := by
  match value with
  | .null => decide
  | .bool true => decide
  | .bool false => decide
  | .number n => exact printable_writeNumber n
  | .string s => exact printable_writeString s
  | .array [] => decide
  | .array (item :: items) =>
    exact ((Printable.cons (by decide) (printable_compactChars item)).append
      (printable_compactItems items)).append (by decide)
  | .object [] => decide
  | .object ((name, value) :: fields) =>
    have first := Printable.cons (c := '\x7b') (by decide) (printable_writeString name)
    have field := (first.append printable_colon).append (printable_compactChars value)
    exact (field.append (printable_compactFields fields)).append (by decide)

/-- Further items on one line hold no control character. -/
theorem printable_compactItems (items : List Json) : Printable (compactItems items) := by
  match items with
  | [] => decide
  | item :: items =>
    exact (Printable.cons (by decide) (printable_compactChars item)).append
      (printable_compactItems items)

/-- Further fields on one line hold no control character. -/
theorem printable_compactFields (fields : List (String × Json)) :
    Printable (compactFields fields) := by
  match fields with
  | [] => decide
  | (name, value) :: fields =>
    have next := Printable.cons (c := ',') (by decide) (printable_writeString name)
    have field := (next.append printable_colon).append (printable_compactChars value)
    exact field.append (printable_compactFields fields)

end

end Json

end CodeAtlas
