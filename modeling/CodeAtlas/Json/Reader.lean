import CodeAtlas.Json.Token

/-!
# Reading JSON

Tokens are put together by a machine that keeps the open arrays and objects on a stack.
The outcome is a `RawJson`, which still shows what the text spelled out: repeated names,
strings that make no text and numbers beyond every float. `RawJson.read?` turns it into
a value and refuses all of these but repeated names, and nesting beyond a limit.
-/

namespace CodeAtlas

/-- A JSON text as spelled. -/
inductive RawJson where
  | null
  | bool (value : Bool)
  | number (value : Option JsonNumber)
  | string (value : Option String)
  | array (items : List RawJson)
  | object (fields : List (Option String × RawJson))

namespace RawJson

/-- An array or object whose end has not been met; what it holds stands last first. -/
inductive Open where
  | array (items : List RawJson)
  | object (fields : List (Option String × RawJson)) (name : Option String)

/-- What may come next. -/
inductive Phase where
  /-- A value. -/
  | value
  /-- A value, or the end of an array without items. -/
  | firstItem
  /-- A field name. -/
  | name
  /-- A field name, or the end of an object without fields. -/
  | firstName
  /-- The colon after a field name. -/
  | colon
  /-- What follows a finished value. -/
  | after (value : RawJson)

/-- What may come next, and the arrays and objects around, innermost first. -/
structure State where
  phase : Phase := .value
  stack : List Open := []

/-- Reads the first token of a value. -/
def beginValue? (stack : List Open) : JsonToken → Option State
  | .openArray => some ⟨.firstItem, .array [] :: stack⟩
  | .openObject => some ⟨.firstName, .object [] none :: stack⟩
  | .null => some ⟨.after .null, stack⟩
  | .bool value => some ⟨.after (.bool value), stack⟩
  | .number value => some ⟨.after (.number value), stack⟩
  | .string value => some ⟨.after (.string value), stack⟩
  | _ => none

/-- Reads a field name. -/
def beginField? (stack : List Open) : JsonToken → Option State
  | .string name =>
    match stack with
    | .object fields _ :: stack => some ⟨.colon, .object fields name :: stack⟩
    | _ => none
  | _ => none

/-- Reads the token after a finished value. -/
def afterValue? (value : RawJson) (stack : List Open) (token : JsonToken) : Option State :=
  match stack, token with
  | .array items :: stack, .comma => some ⟨.value, .array (value :: items) :: stack⟩
  | .array items :: stack, .closeArray =>
    some ⟨.after (.array (value :: items).reverse), stack⟩
  | .object fields name :: stack, .comma =>
    some ⟨.name, .object ((name, value) :: fields) none :: stack⟩
  | .object fields name :: stack, .closeObject =>
    some ⟨.after (.object ((name, value) :: fields).reverse), stack⟩
  | _, _ => none

/-- Reads one token; none when it cannot stand here. -/
def step? (state : State) (token : JsonToken) : Option State :=
  match state.phase with
  | .value => beginValue? state.stack token
  | .firstItem =>
    match token with
    | .closeArray => some ⟨.after (.array []), state.stack.drop 1⟩
    | token => beginValue? state.stack token
  | .name => beginField? state.stack token
  | .firstName =>
    match token with
    | .closeObject => some ⟨.after (.object []), state.stack.drop 1⟩
    | token => beginField? state.stack token
  | .colon =>
    match token with
    | .colon => some ⟨.value, state.stack⟩
    | _ => none
  | .after value => afterValue? value state.stack token

/-- The value when the tokens end. -/
def finish? (state : State) : Option RawJson :=
  match state.phase, state.stack with
  | .after value, [] => some value
  | _, _ => none

/-- Reads a text that spells one value. -/
def parse? (text : String) : Option RawJson :=
  (JsonToken.tokenize? text.toList).bind fun tokens =>
    (tokens.foldlM step? {}).bind finish?

mutual

/-- The value that is spelled, with at most so many levels of arrays and objects. -/
def read? : (levels : Nat) → RawJson → Option Json
  | _, .null => some .null
  | _, .bool value => some (.bool value)
  | _, .number value => value.map .number
  | _, .string value => value.map .string
  | 0, .array _ => none
  | 0, .object _ => none
  | levels + 1, .array items => (readItems? levels items).map .array
  | levels + 1, .object fields => (readFields? levels fields).map Json.ofFields

/-- The values of items. -/
def readItems? : (levels : Nat) → List RawJson → Option (List Json)
  | _, [] => some []
  | levels, item :: items =>
    (read? levels item).bind fun value => (readItems? levels items).map (value :: ·)

/-- The names and values of fields. -/
def readFields? : (levels : Nat) → List (Option String × RawJson) → Option (List (String × Json))
  | _, [] => some []
  | levels, (name, value) :: fields =>
    name.bind fun name =>
    (read? levels value).bind fun value =>
    (readFields? levels fields).map ((name, value) :: ·)

end

end RawJson

end CodeAtlas
