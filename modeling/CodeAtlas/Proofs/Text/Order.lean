import CodeAtlas.Proofs.Text.Utf8
import Mathlib.Tactic.SplitIfs

/-!
# The order of texts

Texts are compared character by character. UTF-8 keeps this order: of two different
characters, the bytes of the smaller one come first, whatever follows them. So texts stand in
the order of their bytes.
-/

namespace CodeAtlas.Text

/-- The bytes of a smaller character come before those of a greater one, whatever follows. -/
theorem utf8EncodeChar_lt {c d : Char} (less : c < d) (left right : List UInt8) :
    String.utf8EncodeChar c ++ left < String.utf8EncodeChar d ++ right := by
  have values : c.val.toNat < d.val.toNat := less
  have bounded : d.val.toNat < 0x110000 := by
    have valid := d.valid
    simp only [UInt32.isValidChar, Nat.isValidChar] at valid
    omega
  unfold String.utf8EncodeChar
  simp only
  -- Characters of one length differ in a digit, and the first byte tells the lengths apart.
  split_ifs <;>
    simp (disch := omega) only [List.cons_append, List.nil_append, List.cons_lt_cons_iff,
      UInt8.lt_iff_toNat_lt, ← UInt8.toNat_inj, UInt8.toNat_ofNat', Nat.mod_eq_of_lt] <;>
    omega

/-- The bytes of a smaller list of characters come first. -/
theorem flatMap_utf8EncodeChar_lt {left right : List Char} (less : left < right) :
    left.flatMap String.utf8EncodeChar < right.flatMap String.utf8EncodeChar := by
  induction left generalizing right with
  | nil =>
    cases right with
    | nil => exact absurd less (List.not_lt_nil _)
    | cons d right =>
      have some : String.utf8EncodeChar d ≠ [] := String.utf8EncodeChar_ne_nil
      obtain ⟨byte, others, bytes⟩ := List.exists_cons_of_ne_nil some
      rw [List.flatMap_cons, bytes]
      exact List.nil_lt_cons _ _
  | cons c left ih =>
    cases right with
    | nil => exact absurd less (List.not_lt_nil _)
    | cons d right =>
      rw [List.flatMap_cons, List.flatMap_cons]
      obtain first | ⟨rfl, rest⟩ := List.cons_lt_cons_iff.mp less
      · exact utf8EncodeChar_lt first _ _
      · exact List.append_left_lt (ih rest)

/-- Texts are ordered by their bytes. -/
theorem utf8_le_utf8 {left right : String} : utf8 left ≤ utf8 right ↔ left ≤ right := by
  constructor
  · intro ordered
    apply String.not_lt.mp
    intro greater
    exact ordered (flatMap_utf8EncodeChar_lt (String.lt_iff.mp greater))
  · intro ordered less
    by_cases same : left = right
    · subst same
      exact List.lt_irrefl _ less
    · have smaller : left < right :=
        String.not_le.mp fun greater => same (String.le_antisymm ordered greater)
      exact List.lt_asymm (flatMap_utf8EncodeChar_lt (String.lt_iff.mp smaller)) less

end CodeAtlas.Text
