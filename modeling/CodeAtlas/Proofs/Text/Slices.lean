import CodeAtlas.Text.Basic
import Mathlib.Data.List.Infix

/-!
# Slices between byte offsets

An offset is a boundary of a text when it is the size of some first part of it. A slice
between two boundaries is what stands between these parts, and the row of a boundary is the
number of line feeds in its part.
-/

namespace CodeAtlas.Chars

/-! ## Sizes -/

@[simp]
theorem byteSize_nil : byteSize [] = 0 := rfl

@[simp]
theorem byteSize_cons (c : Char) (text : List Char) :
    byteSize (c :: text) = c.utf8Size + byteSize text := rfl

/-- The size of two texts together. -/
@[simp]
theorem byteSize_append (first second : List Char) :
    byteSize (first ++ second) = byteSize first + byteSize second := by
  induction first with
  | nil => exact (Nat.zero_add _).symm
  | cons c first ih => rw [List.cons_append, byteSize_cons, byteSize_cons, ih, Nat.add_assoc]

/-- Only the empty text has no bytes. -/
theorem byteSize_eq_zero {text : List Char} : byteSize text = 0 ↔ text = [] := by
  cases text with
  | nil => simp [byteSize]
  | cons c text =>
    have positive := c.utf8Size_pos
    refine ⟨fun none => ?_, nofun⟩
    rw [byteSize_cons] at none
    omega

/-- An offset past a character, as the functions on offsets take it apart. -/
theorem exists_utf8Size_add (c : Char) (offset : Nat) :
    ∃ size, c.utf8Size + offset = size + 1 ∧ c.utf8Size ≤ size + 1 ∧
      size + 1 - c.utf8Size = offset := by
  have positive := c.utf8Size_pos
  exact ⟨c.utf8Size + offset - 1, by omega, by omega, by omega⟩

/-- Of two first parts of a text, the one with fewer bytes begins the other. -/
theorem initial_of_byteSize_le {first second text : List Char} (left : first <+: text)
    (right : second <+: text) (shorter : byteSize first ≤ byteSize second) :
    first <+: second := by
  obtain inside | ⟨rest, rfl⟩ := List.prefix_or_prefix_of_prefix left right
  · exact inside
  · rw [byteSize_append] at shorter
    rw [byteSize_eq_zero.mp (by omega : byteSize rest = 0), List.append_nil]

/-! ## Slices -/

/-- What follows the bytes of a first part is the rest. -/
theorem dropBytes?_eq_some {offset : Nat} {text rest : List Char} :
    dropBytes? offset text = some rest ↔
      ∃ before, text = before ++ rest ∧ byteSize before = offset := by
  constructor
  · intro found
    fun_induction dropBytes? offset text with
    | case1 text =>
      cases found
      exact ⟨[], rfl, rfl⟩
    | case2 offset => cases found
    | case3 offset c text fits ih =>
      obtain ⟨before, rfl, size⟩ := ih found
      refine ⟨c :: before, rfl, ?_⟩
      rw [byteSize_cons]
      omega
    | case4 offset c text inside => cases found
  · rintro ⟨before, rfl, rfl⟩
    induction before with
    | nil => rw [byteSize_nil, dropBytes?, List.nil_append]
    | cons c before ih =>
      obtain ⟨size, same, fits, left⟩ := exists_utf8Size_add c (byteSize before)
      rw [byteSize_cons, same, List.cons_append, dropBytes?, if_pos fits, left, ih]

/-- The bytes of a first part are the part. -/
theorem takeBytes?_eq_some {size : Nat} {text first : List Char} :
    takeBytes? size text = some first ↔
      ∃ rest, text = first ++ rest ∧ byteSize first = size := by
  constructor
  · intro found
    fun_induction takeBytes? size text generalizing first with
    | case1 text =>
      cases found
      exact ⟨text, rfl, rfl⟩
    | case2 size => cases found
    | case3 size c text fits ih =>
      obtain ⟨others, taken, rfl⟩ := Option.map_eq_some_iff.mp found
      obtain ⟨rest, rfl, left⟩ := ih taken
      refine ⟨rest, rfl, ?_⟩
      rw [byteSize_cons]
      omega
    | case4 size c text inside => cases found
  · rintro ⟨rest, rfl, rfl⟩
    induction first with
    | nil => rw [byteSize_nil, takeBytes?]
    | cons c first ih =>
      obtain ⟨size, same, fits, left⟩ := exists_utf8Size_add c (byteSize first)
      rw [byteSize_cons, same, List.cons_append, takeBytes?, if_pos fits, left, ih,
        Option.map_some]

/-- A slice is what stands between two first parts. -/
theorem slice?_eq_some {start stop : Nat} {text piece : List Char} :
    slice? start stop text = some piece ↔
      ∃ before after, text = before ++ piece ++ after ∧ byteSize before = start ∧
        byteSize (before ++ piece) = stop := by
  unfold slice?
  constructor
  · intro found
    split at found
    · obtain ⟨rest, dropped, taken⟩ := Option.bind_eq_some_iff.mp found
      obtain ⟨before, rfl, first⟩ := dropBytes?_eq_some.mp dropped
      obtain ⟨after, rfl, size⟩ := takeBytes?_eq_some.mp taken
      refine ⟨before, after, (List.append_assoc ..).symm, first, ?_⟩
      rw [byteSize_append]
      omega
    · cases found
  · rintro ⟨before, after, rfl, rfl, rfl⟩
    rw [byteSize_append, if_pos (Nat.le_add_right _ _), List.append_assoc,
      dropBytes?_eq_some.mpr ⟨before, rfl, rfl⟩, Option.bind_some]
    exact takeBytes?_eq_some.mpr ⟨after, rfl, by omega⟩

/-- Whether an offset stands before, between or after the characters of a text. -/
def Boundary (offset : Nat) (text : List Char) : Prop :=
  ∃ before after, text = before ++ after ∧ byteSize before = offset

/-- An offset is a boundary if a text can be cut there. -/
theorem boundary_iff {offset : Nat} {text : List Char} :
    Boundary offset text ↔ (dropBytes? offset text).isSome = true := by
  rw [Option.isSome_iff_exists]
  constructor
  · rintro ⟨before, after, same, size⟩
    exact ⟨after, dropBytes?_eq_some.mpr ⟨before, same, size⟩⟩
  · rintro ⟨after, found⟩
    obtain ⟨before, same, size⟩ := dropBytes?_eq_some.mp found
    exact ⟨before, after, same, size⟩

/-- Whether an offset is a boundary is decidable. -/
instance (offset : Nat) (text : List Char) : Decidable (Boundary offset text) :=
  decidable_of_iff _ boundary_iff.symm

/-- There is a slice between boundaries in order. -/
theorem exists_slice {start stop : Nat} {text : List Char} (left : Boundary start text)
    (right : Boundary stop text) (ordered : start ≤ stop) :
    ∃ before piece after, text = before ++ piece ++ after ∧ byteSize before = start ∧
      byteSize (before ++ piece) = stop := by
  obtain ⟨before, rest, cut, rfl⟩ := left
  obtain ⟨longer, after, same, rfl⟩ := right
  obtain ⟨piece, rfl⟩ := initial_of_byteSize_le ⟨rest, cut.symm⟩ ⟨after, same.symm⟩ ordered
  exact ⟨before, piece, after, same, rfl, rfl⟩

/-- A slice that begins no earlier and ends no later than another is a part of it. -/
theorem slice_infix {before piece after outerBefore outer outerAfter : List Char}
    (same : before ++ piece ++ after = outerBefore ++ outer ++ outerAfter)
    (starts : byteSize outerBefore ≤ byteSize before)
    (stops : byteSize (before ++ piece) ≤ byteSize (outerBefore ++ outer)) : piece <:+: outer := by
  have outerFirst : outerBefore <+: before ++ piece ++ after :=
    ⟨outer ++ outerAfter, by rw [same, List.append_assoc]⟩
  have first : before <+: before ++ piece ++ after :=
    ⟨piece ++ after, (List.append_assoc ..).symm⟩
  have whole : before ++ piece <+: outerBefore ++ outer :=
    initial_of_byteSize_le ⟨after, rfl⟩ ⟨outerAfter, same.symm⟩ stops
  obtain ⟨lead, rfl⟩ := initial_of_byteSize_le outerFirst first starts
  rw [List.append_assoc] at whole
  have inside := (List.prefix_append_right_inj _).mp whole
  exact (List.suffix_append lead piece).isInfix.trans inside.isInfix

/-! ## Rows -/

/-- The row of a boundary is the number of line feeds before it. -/
theorem row_byteSize (before after : List Char) :
    row (byteSize before) (before ++ after) = before.count '\n' := by
  induction before with
  | nil => rw [byteSize_nil, row, List.count_nil]
  | cons c before ih =>
    obtain ⟨size, same, _, left⟩ := exists_utf8Size_add c (byteSize before)
    rw [byteSize_cons, same, List.cons_append, row, left, ih, List.count_cons, Nat.add_comm]
    simp only [beq_iff_eq]

end CodeAtlas.Chars
