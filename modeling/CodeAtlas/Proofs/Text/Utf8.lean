import CodeAtlas.Text.Basic

/-!
# UTF-8 bytes of texts

Sources are identified and lines are cut by their bytes. A text is determined by its
bytes, and a byte below 128 stands for the character with its number wherever it occurs,
so that a zero byte or a line feed byte never comes from a longer character.
-/

namespace CodeAtlas.Text

/-- The bytes of a text. -/
abbrev utf8 (text : String) : List UInt8 := text.toList.flatMap String.utf8EncodeChar

/-- The bytes of a text are the bytes of its byte array. -/
theorem utf8_eq_toByteArray (text : String) : (utf8 text).toByteArray = text.toByteArray :=
  String.utf8Encode_toList

/-- The encoding of a text holds its bytes. -/
theorem toList_data_toUTF8 (text : String) : text.toUTF8.data.toList = utf8 text := by
  rw [String.toUTF8_eq_toByteArray, ← utf8_eq_toByteArray, List.data_toByteArray]

/-- The bytes of a line with its line feed. -/
theorem utf8_lineFeed (line : String) : utf8 (line ++ "\n") = utf8 line ++ [10] := by
  simp only [utf8, String.toList_append, List.flatMap_append]
  rfl

/-- A text is determined by its bytes. -/
theorem utf8_injective (left right : String) (same : utf8 left = utf8 right) : left = right := by
  apply String.toByteArray_inj.mp
  rw [← utf8_eq_toByteArray, ← utf8_eq_toByteArray, same]

/-- A byte below 128 in the encoding of a character is the number of that character. -/
theorem toNat_eq_of_mem_utf8EncodeChar {byte : UInt8} {c : Char} (small : byte.toNat < 128)
    (present : byte ∈ String.utf8EncodeChar c) : c.toNat = byte.toNat := by
  unfold String.utf8EncodeChar at present
  simp only at present
  split at present
  · rename_i ascii
    obtain rfl := List.mem_singleton.mp present
    rw [UInt8.toNat_ofNat']
    change c.val.toNat = _
    exact (Nat.mod_eq_of_lt (by omega)).symm
  -- Every byte of a longer encoding has its highest bit set.
  · exfalso
    split at present
    · simp only [List.mem_cons, List.not_mem_nil, or_false] at present
      rcases present with rfl | rfl <;> rw [UInt8.toNat_ofNat'] at small <;> omega
    · split at present <;> simp only [List.mem_cons, List.not_mem_nil, or_false] at present
      · rcases present with rfl | rfl | rfl <;> rw [UInt8.toNat_ofNat'] at small <;> omega
      · rcases present with rfl | rfl | rfl | rfl <;> rw [UInt8.toNat_ofNat'] at small <;> omega

/-- A byte below 128 occurs in a text only as the character with its number. -/
theorem mem_toList_of_mem_utf8 {byte : UInt8} {text : String} (small : byte.toNat < 128)
    (present : byte ∈ utf8 text) : Char.ofNat byte.toNat ∈ text.toList := by
  obtain ⟨c, member, encoded⟩ := List.mem_flatMap.mp present
  have number := toNat_eq_of_mem_utf8EncodeChar small encoded
  rwa [← number, Char.ofNat_toNat]

end CodeAtlas.Text
