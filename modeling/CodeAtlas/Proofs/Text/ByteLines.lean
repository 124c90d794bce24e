import CodeAtlas.Proofs.Text.Utf8
import CodeAtlas.Text.ByteLines

/-!
# Reading lines

What can be read from an input is stated line by line: each line is ended by a line feed,
the last one perhaps by the end of the input, and reading ends with the input or before the
first line that is no text. Every input holds exactly the lines that are read from it.
-/

namespace CodeAtlas

open Text

/-- A line feed ends the first piece. -/
theorem byteLines_append {piece : List UInt8} (single : 10 ∉ piece) (rest : List UInt8) :
    byteLines (piece ++ 10 :: rest) = piece :: byteLines rest := by
  induction piece with
  | nil => simp [byteLines]
  | cons byte piece ih =>
    have other := List.ne_of_not_mem_cons single
    have others := List.not_mem_of_not_mem_cons single
    rw [List.cons_append, byteLines, if_neg (Ne.symm other), ih others]

/-- Bytes without a line feed are one piece. -/
theorem byteLines_single {piece : List UInt8} (single : 10 ∉ piece) (visible : piece ≠ []) :
    byteLines piece = [piece] := by
  induction piece with
  | nil => exact absurd rfl visible
  | cons byte piece ih =>
    have other := List.ne_of_not_mem_cons single
    have others := List.not_mem_of_not_mem_cons single
    rw [byteLines, if_neg (Ne.symm other)]
    cases piece with
    | nil => rfl
    | cons next piece => rw [ih others (List.cons_ne_nil next piece)]

/-- The bytes of a text spell that text, and no other bytes do. -/
theorem textOfBytes?_eq_some {bytes : List UInt8} {text : String} :
    textOfBytes? bytes = some text ↔ bytes = utf8 text := by
  have array : (⟨bytes.toArray⟩ : ByteArray) = bytes.toByteArray :=
    ByteArray.ext List.data_toByteArray.symm
  unfold textOfBytes? String.fromUTF8?
  rw [array, ← List.toByteArray_inj, utf8_eq_toByteArray]
  constructor
  · intro read
    split at read
    · cases read
      rfl
    · cases read
  · intro same
    have valid : bytes.toByteArray.IsValidUTF8 := by
      rw [same]
      exact text.isValidUTF8
    rw [dif_pos valid]
    exact congrArg some (String.toByteArray_inj.mp same)

/-- A text holds a line feed where its bytes do. -/
theorem mem_utf8_lineFeed {text : String} : 10 ∈ utf8 text ↔ '\n' ∈ text.toList := by
  constructor
  · exact fun present => mem_toList_of_mem_utf8 (by decide) present
  · exact fun present => List.mem_flatMap.mpr ⟨'\n', present, by decide⟩

/-- What lines can be read from bytes. -/
inductive Holds : List String → List UInt8 → Prop where
  /-- The input has ended. -/
  | ended : Holds [] []
  /-- The next line is no text, whatever follows. -/
  | spoilt {piece rest : List UInt8} (single : 10 ∉ piece) (invalid : textOfBytes? piece = none) :
    Holds [] (piece ++ 10 :: rest)
  /-- The last line is no text. -/
  | spoiltLast {piece : List UInt8} (single : 10 ∉ piece) (invalid : textOfBytes? piece = none) :
    Holds [] piece
  /-- The last line is ended by the end of the input. -/
  | last {line : String} (single : '\n' ∉ line.toList) (visible : line ≠ "") :
    Holds [line] (utf8 line)
  /-- A line is ended by a line feed, and others follow. -/
  | line {line : String} {lines : List String} {rest : List UInt8}
    (single : '\n' ∉ line.toList) (others : Holds lines rest) :
    Holds (line :: lines) (utf8 line ++ 10 :: rest)

/-- The lines that bytes hold are those that are read. -/
theorem Holds.read {lines : List String} {bytes : List UInt8} (held : Holds lines bytes) :
    textsUntilInvalid (byteLines bytes) = lines := by
  induction held with
  | ended => rfl
  | spoilt single invalid => rw [byteLines_append single, textsUntilInvalid, invalid]
  | @spoiltLast piece single invalid =>
    have visible : piece ≠ [] := by
      rintro rfl
      have valid : textOfBytes? [] = some "" := textOfBytes?_eq_some.mpr rfl
      rw [invalid] at valid
      cases valid
    rw [byteLines_single single visible, textsUntilInvalid, invalid]
  | @last line single visible =>
    have bytes : utf8 line ≠ [] := fun none => visible (utf8_injective line "" none)
    rw [byteLines_single (mt mem_utf8_lineFeed.mp single) bytes, textsUntilInvalid,
      textOfBytes?_eq_some.mpr rfl]
    rfl
  | line single others ih =>
    rw [byteLines_append (mt mem_utf8_lineFeed.mp single), textsUntilInvalid,
      textOfBytes?_eq_some.mpr rfl]
    simp only [ih]

/-- A line that is read holds no line feed. -/
theorem Holds.single {lines : List String} {bytes : List UInt8} (held : Holds lines bytes) :
    ∀ line ∈ lines, '\n' ∉ line.toList := by
  induction held with
  | ended => exact fun _ none => nomatch none
  | spoilt => exact fun _ none => nomatch none
  | spoiltLast => exact fun _ none => nomatch none
  | last single => exact List.forall_mem_singleton.mpr single
  | line single _ ih => exact List.forall_mem_cons.mpr ⟨single, ih⟩

/-- Lines written with their line feeds are held before what else follows. -/
theorem Holds.written {lines others : List String} {rest : List UInt8}
    (single : ∀ line ∈ lines, '\n' ∉ line.toList) (held : Holds others rest) :
    Holds (lines ++ others) (lines.flatMap (fun line => utf8 line ++ [10]) ++ rest) := by
  induction lines with
  | nil => exact held
  | cons line lines ih =>
    obtain ⟨first, later⟩ := List.forall_mem_cons.mp single
    simp only [List.flatMap_cons, List.append_assoc, List.cons_append, List.nil_append]
    exact .line first (ih later)

/-- All bytes hold the lines that are read from them. -/
theorem holds_read (bytes : List UInt8) : Holds (textsUntilInvalid (byteLines bytes)) bytes := by
  by_cases more : 10 ∈ bytes
  · obtain ⟨piece, rest, joined, single⟩ := List.eq_append_cons_of_mem more
    have shorter : rest.length < bytes.length := by
      rw [joined, List.length_append, List.length_cons]
      omega
    rw [joined, byteLines_append single, textsUntilInvalid]
    cases read : textOfBytes? piece with
    | none => exact .spoilt single read
    | some line =>
      obtain rfl := textOfBytes?_eq_some.mp read
      exact .line (mt mem_utf8_lineFeed.mpr single) (holds_read rest)
  · cases visible : bytes with
    | nil => exact .ended
    | cons byte others =>
      rw [← visible]
      have nonempty : bytes ≠ [] := by
        rw [visible]
        exact List.cons_ne_nil byte others
      rw [byteLines_single more nonempty, textsUntilInvalid]
      cases read : textOfBytes? bytes with
      | none => exact .spoiltLast more read
      | some line =>
        obtain rfl := textOfBytes?_eq_some.mp read
        refine .last (mt mem_utf8_lineFeed.mpr more) ?_
        rintro rfl
        exact nonempty rfl
termination_by bytes.length
decreasing_by exact shorter

end CodeAtlas
