import CodeAtlas.Json.Reader
import CodeAtlas.Proofs.Json.Tokens

/-!
# Reading written values back

A value written on one line is read back as it is spelled: the same arrays, the same names in
the same order and the same texts. Only a number may read as another one, or as none, for its
text is read with the accuracy of the machine.
-/

namespace CodeAtlas

namespace Json

mutual

/-- What a written value is read back as. -/
def spelled : Json → RawJson
  | .null => .null
  | .bool value => .bool value
  | .number n => .number n.spelled
  | .string s => .string (some s)
  | .array items => .array (spelledItems items)
  | .object fields => .object (spelledFields fields)

/-- What written items are read back as. -/
def spelledItems : List Json → List RawJson
  | [] => []
  | item :: items => item.spelled :: spelledItems items

/-- What written fields are read back as. -/
def spelledFields : List (String × Json) → List (Option String × RawJson)
  | [] => []
  | (name, value) :: fields => (some name, value.spelled) :: spelledFields fields

end

open RawJson

/-- A value begins with no bracket that ends an array. -/
theorem exists_tokens (value : Json) :
    ∃ token rest, value.tokens = token :: rest ∧ token ≠ .closeArray := by
  fun_cases tokens value <;> exact ⟨_, _, rfl, nofun⟩

mutual

/-- The tokens of a value are read as the value, whatever is open around it. -/
theorem foldlM_tokens (value : Json) (stack : List Open) :
    value.tokens.foldlM step? ⟨.value, stack⟩ = some ⟨.after value.spelled, stack⟩ := by
  match value with
  | .null => rfl
  | .bool value => rfl
  | .number n => rfl
  | .string s => rfl
  | .array [] => rfl
  | .array (item :: items) =>
    obtain ⟨token, rest, begins, other⟩ := item.exists_tokens
    have first := foldlM_tokens item (.array [] :: stack)
    rw [begins, List.foldlM_cons] at first
    have opened : step? ⟨.firstItem, .array [] :: stack⟩ token =
        step? ⟨.value, .array [] :: stack⟩ token := by
      simp [step?]
    rw [tokens, List.foldlM_cons]
    change (item.tokens ++ (itemTokens items ++ [JsonToken.closeArray])).foldlM step?
      ⟨.firstItem, .array [] :: stack⟩ = _
    rw [List.foldlM_append, begins, List.foldlM_cons, opened, first]
    exact foldlM_itemTokens items item.spelled [] stack
  | .object [] => rfl
  | .object ((name, value) :: fields) =>
    change (value.tokens ++ (fieldTokens fields ++ [JsonToken.closeObject])).foldlM step?
      ⟨.value, .object [] (some name) :: stack⟩ = _
    rw [List.foldlM_append, foldlM_tokens]
    exact foldlM_fieldTokens fields (some name) value.spelled [] stack

/-- The tokens of further items and of the end of their array are read as the array. -/
theorem foldlM_itemTokens (items : List Json) (item : RawJson) (before : List RawJson)
    (stack : List Open) :
    (itemTokens items ++ [JsonToken.closeArray]).foldlM step?
        ⟨.after item, .array before :: stack⟩ =
      some ⟨.after (.array (before.reverse ++ item :: spelledItems items)), stack⟩ := by
  match items with
  | [] =>
    have closed : (item :: before).reverse = before.reverse ++ [item] := List.reverse_cons
    rw [spelledItems, ← closed]
    rfl
  | next :: items =>
    change (next.tokens ++ itemTokens items ++ [JsonToken.closeArray]).foldlM step?
      ⟨.value, .array (item :: before) :: stack⟩ = _
    rw [List.append_assoc, List.foldlM_append, foldlM_tokens]
    refine (foldlM_itemTokens items next.spelled (item :: before) stack).trans ?_
    rw [spelledItems, List.reverse_cons, List.append_assoc, List.singleton_append]

/-- The tokens of further fields and of the end of their object are read as the object. -/
theorem foldlM_fieldTokens (fields : List (String × Json)) (name : Option String)
    (value : RawJson) (before : List (Option String × RawJson)) (stack : List Open) :
    (fieldTokens fields ++ [JsonToken.closeObject]).foldlM step?
        ⟨.after value, .object before name :: stack⟩ =
      some ⟨.after (.object (before.reverse ++ (name, value) :: spelledFields fields)), stack⟩ := by
  match fields with
  | [] =>
    have closed : ((name, value) :: before).reverse = before.reverse ++ [(name, value)] :=
      List.reverse_cons
    rw [spelledFields, ← closed]
    rfl
  | (next, inner) :: fields =>
    change (inner.tokens ++ fieldTokens fields ++ [JsonToken.closeObject]).foldlM step?
      ⟨.value, .object ((name, value) :: before) (some next) :: stack⟩ = _
    rw [List.append_assoc, List.foldlM_append, foldlM_tokens]
    refine (foldlM_fieldTokens fields (some next) inner.spelled ((name, value) :: before)
      stack).trans ?_
    rw [spelledFields, List.reverse_cons, List.append_assoc, List.singleton_append]

end

/-- A value written on one line is read back as it is spelled. -/
theorem parse?_compact (value : Json) : parse? value.compact = some value.spelled := by
  obtain ⟨state, read, settled⟩ := spells_compactChars value []
  rw [List.append_nil] at settled
  have tokens : JsonToken.tokenize? value.compact.toList = some value.tokens := by
    unfold JsonToken.tokenize? compact
    rw [String.toList_ofList]
    rw [read]
    exact (JsonToken.finish?_of_settled settled).trans (by rw [List.reverse_reverse])
  unfold parse?
  rw [tokens]
  change (value.tokens.foldlM step? ⟨.value, []⟩).bind finish? = _
  rw [foldlM_tokens]
  rfl

end Json

end CodeAtlas
