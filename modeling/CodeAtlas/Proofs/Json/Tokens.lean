import CodeAtlas.Proofs.Json.Numbers

/-!
# Tokens of written values

A value written on one line is cut into the tokens it was written with. The reader settles a
word or number only when something else follows, so what is said here is in two parts: a text
that spells tokens after a mark, and one that also does so right after another value.
-/

namespace CodeAtlas

namespace JsonToken

/-- The tokens before a text, last first, once a word or number that was begun is over. -/
def settled? (state : State) : Option (List JsonToken) :=
  match state.mode with
  | .between => some state.tokens
  | .word letters => (ofWord? letters.reverse).map (· :: state.tokens)
  | _ => none

/-- Whether a text is cut into tokens when it stands after a mark or at the start. -/
def Spells (text : List Char) (tokens : List JsonToken) : Prop :=
  ∀ before, ∃ state, text.foldlM step? ⟨.between, before⟩ = some state ∧
    settled? state = some (tokens.reverse ++ before)

/-- Whether a text is cut into tokens when it stands after a value. -/
def Continues (text : List Char) (tokens : List JsonToken) : Prop :=
  ∀ start before, settled? start = some before → ∃ state, text.foldlM step? start = some state ∧
    settled? state = some (tokens.reverse ++ before)

variable {state : State} {text more : List Char} {tokens others before : List JsonToken}
  {token : JsonToken} {c : Char}

/-! ## Putting texts together -/

/-- A text that has been read ends with its tokens. -/
theorem finish?_of_settled (settled : settled? state = some tokens) :
    finish? state = some tokens.reverse := by
  obtain ⟨mode, earlier⟩ := state
  cases mode with
  | between => exact congrArg (Option.map List.reverse) settled
  | word letters =>
    obtain ⟨token, read, rfl⟩ := Option.map_eq_some_iff.mp settled
    exact congrArg (Option.map fun token => (token :: earlier).reverse) read
  | text content half => cases settled
  | escape content half => cases settled
  | code content half digits => cases settled

/-- A character that is no part of a word is read as after a mark. -/
theorem step?_of_settled (settled : settled? state = some tokens) (mark : isWordChar c = false) :
    step? state c = between? tokens c := by
  obtain ⟨mode, earlier⟩ := state
  cases mode with
  | between =>
    cases settled
    rfl
  | word letters =>
    obtain ⟨token, read, rfl⟩ := Option.map_eq_some_iff.mp settled
    simp [step?, mark, read]
  | text content half => cases settled
  | escape content half => cases settled
  | code content half digits => cases settled

/-- What stands after a value can stand after a mark. -/
theorem Continues.spells (continues : Continues text tokens) : Spells text tokens :=
  fun before => continues ⟨.between, before⟩ before rfl

/-- Nothing is no token. -/
theorem continues_nil : Continues [] [] := fun start _ settled => ⟨start, rfl, settled⟩

/-- A text and what continues it spell their tokens together. -/
theorem Spells.append (first : Spells text tokens) (rest : Continues more others) :
    Spells (text ++ more) (tokens ++ others) := by
  intro before
  obtain ⟨middle, read, settled⟩ := first before
  obtain ⟨state, remainder, last⟩ := rest middle _ settled
  refine ⟨state, ?_, ?_⟩
  · rw [List.foldlM_append, read]
    exact remainder
  · rw [last, List.reverse_append, List.append_assoc]

/-- Two texts that continue spell their tokens together. -/
theorem Continues.append (first : Continues text tokens) (rest : Continues more others) :
    Continues (text ++ more) (tokens ++ others) := by
  intro start before begun
  obtain ⟨middle, read, settled⟩ := first start before begun
  obtain ⟨state, remainder, last⟩ := rest middle _ settled
  refine ⟨state, ?_, ?_⟩
  · rw [List.foldlM_append, read]
    exact remainder
  · rw [last, List.reverse_append, List.append_assoc]

/-- A mark is read as a token of its own, whatever value stands before it. -/
theorem step?_mark (settled : settled? state = some before) (mark : ofMark? c = some token) :
    step? state c = some ⟨.between, token :: before⟩ := by
  have apart : isWordChar c = false ∧ isBlank c = false ∧ c ≠ '"' := by
    unfold ofMark? at mark
    split at mark
    · decide
    · decide
    · decide
    · decide
    · decide
    · decide
    · cases mark
  rw [step?_of_settled settled apart.1]
  simp [between?, apart, mark]

/-- A mark, with what is spelled after it, continues a value. -/
theorem Spells.mark (spells : Spells text tokens) (mark : ofMark? c = some token) :
    Continues (c :: text) (token :: tokens) := by
  intro start before settled
  obtain ⟨state, read, last⟩ := spells (token :: before)
  refine ⟨state, ?_, ?_⟩
  · rw [List.foldlM_cons, step?_mark settled mark]
    exact read
  · rw [last, List.reverse_cons, List.append_assoc]
    rfl

/-- A mark continues a value. -/
theorem continues_mark (mark : ofMark? c = some token) : Continues [c] [token] :=
  continues_nil.spells.mark mark

/-! ## Words and numbers -/

/-- Characters of a word are read one after the other. -/
theorem foldlM_word (word : ∀ c ∈ text, isWordChar c = true) (letters : List Char)
    (before : List JsonToken) : text.foldlM step? ⟨.word letters, before⟩ =
      some ⟨.word (text.reverse ++ letters), before⟩ := by
  induction text generalizing letters with
  | nil => rfl
  | cons c text ih =>
    obtain ⟨here, others⟩ := List.forall_mem_cons.mp word
    have step : step? ⟨.word letters, before⟩ c = some ⟨.word (c :: letters), before⟩ := by
      simp [step?, here]
    rw [List.foldlM_cons, step]
    exact (ih others (c :: letters)).trans (by simp)

/-- What is part of a word is no blank and no quote. -/
theorem not_blank_of_isWordChar (word : isWordChar c = true) : isBlank c = false ∧ c ≠ '"' := by
  constructor
  · refine Bool.eq_false_iff.mpr fun blank => ?_
    simp only [isBlank, Bool.or_eq_true, decide_eq_true_eq] at blank
    rcases blank with ((rfl | rfl) | rfl) | rfl <;> exact absurd word (by decide)
  · rintro rfl
    exact absurd word (by decide)

/-- A word spells its token. -/
theorem spells_word (some : text ≠ []) (word : ∀ c ∈ text, isWordChar c = true)
    (read : ofWord? text = .some token) : Spells text [token] := by
  intro before
  obtain ⟨c, text, rfl⟩ := List.exists_cons_of_ne_nil some
  obtain ⟨here, others⟩ := List.forall_mem_cons.mp word
  have begun : step? ⟨.between, before⟩ c = .some ⟨.word [c], before⟩ := by
    have apart := not_blank_of_isWordChar here
    simp [step?, between?, here, apart]
  refine ⟨⟨.word (text.reverse ++ [c]), before⟩, ?_, ?_⟩
  · rw [List.foldlM_cons, begun]
    exact foldlM_word others [c] before
  · simp [settled?, read]

/-- The characters of a number are parts of a word. -/
theorem isWordChar_of_isNumber (number : JsonNumber.IsNumber text) :
    ∀ c ∈ text, isWordChar c = true := by
  have digit {c : Char} (digit : c.isDigit = true) : isWordChar c = true := by
    simp [isWordChar, Char.isAlphanum, digit]
  have unsigned {text : List Char} (unsigned : JsonNumber.IsUnsigned text) :
      ∀ c ∈ text, isWordChar c = true := by
    obtain ⟨whole, point, mark⟩ := unsigned
    intro c member
    obtain here | here | here := by simpa only [List.mem_append] using member
    · exact digit (whole.digits c here)
    · cases point with
      | none => cases here
      | point fraction =>
        obtain rfl | later := List.mem_cons.mp here
        · decide
        · exact digit (fraction.digits c later)
    · cases mark with
      | none => cases here
      | above exponent | below exponent =>
        obtain rfl | later := List.mem_cons.mp here
        · decide
        · obtain rfl | last := List.mem_cons.mp later
          · decide
          · exact digit (exponent.digits c last)
  cases number with
  | plain plain => exact unsigned plain
  | minus plain => exact List.forall_mem_cons.mpr ⟨by decide, unsigned plain⟩

/-- A number spells itself: no word has the form of a number. -/
theorem ofWord?_of_written {number : JsonNumber.Written}
    (written : JsonNumber.written? text = some number) :
    ofWord? text = some (.number number.value?) := by
  have other {word : String} (none : JsonNumber.written? word.toList = none) :
      String.ofList text ≠ word := by
    rintro rfl
    rw [String.toList_ofList, written] at none
    cases none
  unfold ofWord?
  split
  · rename_i same
    exact absurd same (other rfl)
  · rename_i same
    exact absurd same (other rfl)
  · rename_i same
    exact absurd same (other rfl)
  · rw [written]
    rfl

/-! ## Strings -/

/-- A hexadecimal digit is read as its value. -/
theorem hexValue?_hexDigit : ∀ n < 16, hexValue? (Json.hexDigit n) = some n := by decide

/-- A code below 32 is a character of its own. -/
theorem afterCode_small {n : Nat} (small : n < 32) (content : List Char) :
    afterCode (some content) none n = .text (some (Char.ofNat n :: content)) none := by
  have high : isHighHalf n = false := by
    simp [isHighHalf]
    omega
  have low : isLowHalf n = false := by
    simp [isLowHalf]
    omega
  simp [afterCode, high, low]

/-- An escaped character is read as the character. -/
theorem foldlM_escapeChar (c : Char) (content : List Char) (before : List JsonToken) :
    (Json.escapeChar c).foldlM step? ⟨.text (some content) none, before⟩ =
      some ⟨.text (some (c :: content)) none, before⟩ := by
  unfold Json.escapeChar
  split
  · rfl
  · rfl
  · rfl
  · rfl
  · rfl
  · rename_i quote backslash _ _ _
    split
    · rename_i code
      obtain rfl : c = Char.ofNat 8 := by rw [← code, Char.ofNat_toNat]
      rfl
    · split
      · rename_i code
        obtain rfl : c = Char.ofNat 12 := by rw [← code, Char.ofNat_toNat]
        rfl
      · split
        · rename_i small
          have high := hexValue?_hexDigit (c.toNat / 16) (by omega)
          have low := hexValue?_hexDigit (c.toNat % 16) (by omega)
          have zero : hexValue? '0' = some 0 := by decide
          have code : c.toNat / 16 * 16 + c.toNat % 16 = c.toNat := by omega
          have last := afterCode_small small content
          rw [Char.ofNat_toNat] at last
          simp [step?, zero, high, low, code, last]
        · rename_i large
          simp [step?, append, if_neg quote, if_neg backslash, large]

/-- An escaped text is read as the text. -/
theorem foldlM_flatMap_escapeChar (text content : List Char) (before : List JsonToken) :
    (text.flatMap Json.escapeChar).foldlM step? ⟨.text (some content) none, before⟩ =
      some ⟨.text (some (text.reverse ++ content)) none, before⟩ := by
  induction text generalizing content with
  | nil => rfl
  | cons c text ih =>
    rw [List.flatMap_cons, List.foldlM_append, foldlM_escapeChar]
    exact (ih (c :: content)).trans (by simp)

/-- A written text spells itself. -/
theorem spells_writeString (s : String) : Spells (Json.writeString s) [.string (some s)] := by
  intro before
  refine ⟨⟨.between, .string (some s) :: before⟩, ?_, rfl⟩
  have begun : step? ⟨.between, before⟩ '"' = some ⟨.text (some []) none, before⟩ := rfl
  have ended : step? ⟨.text (some s.toList.reverse) none, before⟩ '"' =
      some ⟨.between, .string (some s) :: before⟩ := by
    simp [step?]
  rw [Json.writeString, List.cons_append, List.foldlM_cons, begun]
  change ((s.toList.flatMap Json.escapeChar) ++ ['"']).foldlM step? _ = _
  rw [List.foldlM_append, foldlM_flatMap_escapeChar, List.append_nil]
  exact congrArg (· >>= pure) ended

end JsonToken

/-! ## Values -/

namespace JsonNumber

/-- What the text of a number is read as; nothing when it is beyond every float. -/
def spelled (number : JsonNumber) : Option JsonNumber :=
  (written? (Json.writeNumber number)).bind Written.value?

end JsonNumber

namespace Json

mutual

/-- The tokens of a value. -/
def tokens : Json → List JsonToken
  | .null => [.null]
  | .bool value => [.bool value]
  | .number n => [.number n.spelled]
  | .string s => [.string (some s)]
  | .array [] => [.openArray, .closeArray]
  | .array (item :: items) =>
    .openArray :: (item.tokens ++ (itemTokens items ++ [.closeArray]))
  | .object [] => [.openObject, .closeObject]
  | .object ((name, value) :: fields) =>
    .openObject :: .string (some name) :: .colon ::
      (value.tokens ++ (fieldTokens fields ++ [.closeObject]))

/-- The tokens of further items. -/
def itemTokens : List Json → List JsonToken
  | [] => []
  | item :: items => .comma :: (item.tokens ++ itemTokens items)

/-- The tokens of further fields. -/
def fieldTokens : List (String × Json) → List JsonToken
  | [] => []
  | (name, value) :: fields =>
    .comma :: .string (some name) :: .colon :: (value.tokens ++ fieldTokens fields)

end

open JsonToken

/-- The word of a value that has no parts spells its token. -/
theorem spells_writeNumber (number : JsonNumber) :
    Spells (writeNumber number) [.number number.spelled] := by
  have form := JsonNumber.isNumber_writeNumber number
  obtain ⟨written, read⟩ := Option.isSome_iff_exists.mp form.written?
  have some : writeNumber number ≠ [] := by
    rintro none
    rw [none] at read
    cases read
  have value : number.spelled = written.value? := by
    unfold JsonNumber.spelled
    rw [read]
    rfl
  rw [value]
  exact spells_word some (isWordChar_of_isNumber form) (ofWord?_of_written read)

mutual

/-- A value on one line spells its tokens. -/
theorem spells_compactChars (value : Json) : Spells value.compactChars value.tokens := by
  match value with
  | .null => exact spells_word (by decide) (List.all_eq_true.mp rfl) rfl
  | .bool true => exact spells_word (by decide) (List.all_eq_true.mp rfl) rfl
  | .bool false => exact spells_word (by decide) (List.all_eq_true.mp rfl) rfl
  | .number n => exact spells_writeNumber n
  | .string s => exact spells_writeString s
  | .array [] => exact ((continues_mark (c := ']') rfl).spells.mark (c := '[') rfl).spells
  | .array (item :: items) =>
    have rest := (continues_compactItems items).append (continues_mark (c := ']') rfl)
    have opened := ((spells_compactChars item).append rest).mark (c := '[') rfl
    simpa [compactChars, tokens] using opened.spells
  | .object [] =>
    exact ((continues_mark (c := '\x7d') rfl).spells.mark (c := '\x7b') rfl).spells
  | .object ((name, value) :: fields) =>
    have rest := (continues_compactFields fields).append (continues_mark (c := '\x7d') rfl)
    have field := ((spells_compactChars value).append rest).mark (c := ':') rfl
    have opened := ((spells_writeString name).append field).mark (c := '\x7b') rfl
    simpa [compactChars, tokens] using opened.spells

/-- Further items on one line continue with their tokens. -/
theorem continues_compactItems (items : List Json) :
    Continues (compactItems items) (itemTokens items) := by
  match items with
  | [] => exact continues_nil
  | item :: items =>
    rw [compactItems, itemTokens, List.cons_append]
    exact ((spells_compactChars item).append (continues_compactItems items)).mark rfl

/-- Further fields on one line continue with their tokens. -/
theorem continues_compactFields (fields : List (String × Json)) :
    Continues (compactFields fields) (fieldTokens fields) := by
  match fields with
  | [] => exact continues_nil
  | (name, value) :: fields =>
    have rest := ((spells_compactChars value).append (continues_compactFields fields)).mark
      (c := ':') rfl
    have field := ((spells_writeString name).append rest).mark (c := ',') rfl
    simpa [compactFields, fieldTokens] using field

end

end Json

end CodeAtlas
