import CodeAtlas.Json.Number

/-!
# JSON tokens

A text is cut into tokens by a machine that reads one character at a time. A string
whose escapes make no text and a number beyond every float are still tokens, marked as
having no value: a part of a message that nobody reads may hold them.
-/

namespace CodeAtlas

/-- One token of a JSON text. -/
inductive JsonToken where
  | openArray
  | closeArray
  | openObject
  | closeObject
  | comma
  | colon
  | null
  | bool (value : Bool)
  | number (value : Option JsonNumber)
  | string (value : Option String)

namespace JsonToken

/-- What the machine has begun to read. -/
inductive Mode where
  | between
  /-- A word or number, last character first. -/
  | word (letters : List Char)
  /-- A string: its content, last character first, unless it is spoilt, and the first
  half of a character given by two escapes. -/
  | text (content : Option (List Char)) (half : Option Nat)
  /-- A string after a backslash. -/
  | escape (content : Option (List Char)) (half : Option Nat)
  /-- A string inside a code escape, with the digits read, last first. -/
  | code (content : Option (List Char)) (half : Option Nat) (digits : List Nat)

/-- What the machine is reading, and the tokens before it, last first. -/
structure State where
  mode : Mode := .between
  tokens : List JsonToken := []

/-- Whether a character is a blank between tokens. -/
def isBlank (c : Char) : Bool := c = ' ' || c = '\t' || c = '\n' || c = '\r'

/-- Whether a character is part of a word or number. -/
def isWordChar (c : Char) : Bool := c.isAlphanum || c = '-' || c = '+' || c = '.'

/-- The token of a word or number. -/
def ofWord? (letters : List Char) : Option JsonToken :=
  match String.ofList letters with
  | "null" => some .null
  | "true" => some (.bool true)
  | "false" => some (.bool false)
  | _ => (JsonNumber.written? letters).map fun number => .number number.value?

/-- The token that is one character. -/
def ofMark? : Char → Option JsonToken
  | '[' => some .openArray
  | ']' => some .closeArray
  | '\x7b' => some .openObject
  | '\x7d' => some .closeObject
  | ',' => some .comma
  | ':' => some .colon
  | _ => none

/-- Appends a character to the content of a string; a half character before it spoils
the content. -/
def append (content : Option (List Char)) (half : Option Nat) (c : Char) :
    Option (List Char) :=
  if half.isSome then none else content.map (c :: ·)

/-- The value of a hexadecimal digit. -/
def hexValue? (c : Char) : Option Nat :=
  if '0' ≤ c ∧ c ≤ '9' then some (c.toNat - 48)
  else if 'a' ≤ c ∧ c ≤ 'f' then some (c.toNat - 87)
  else if 'A' ≤ c ∧ c ≤ 'F' then some (c.toNat - 55)
  else none

/-- Whether a code is the first half of a character. -/
def isHighHalf (code : Nat) : Bool := 0xD800 ≤ code && code < 0xDC00

/-- Whether a code is the second half of a character. -/
def isLowHalf (code : Nat) : Bool := 0xDC00 ≤ code && code < 0xE000

/-- The string mode after a code escape. -/
def afterCode (content : Option (List Char)) (half : Option Nat) (code : Nat) : Mode :=
  match half with
  | some high =>
    if isLowHalf code then
      let c := Char.ofNat (0x10000 + (high - 0xD800) * 0x400 + (code - 0xDC00))
      .text (content.map (c :: ·)) none
    else .text none none
  | none =>
    if isHighHalf code then .text content (some code)
    else if isLowHalf code then .text none none
    else .text (content.map (Char.ofNat code :: ·)) none

/-- The character an escape stands for. -/
def escaped? : Char → Option Char
  | '"' => some '"'
  | '\\' => some '\\'
  | '/' => some '/'
  | 'b' => some (Char.ofNat 8)
  | 'f' => some (Char.ofNat 12)
  | 'n' => some '\n'
  | 'r' => some '\r'
  | 't' => some '\t'
  | _ => none

/-- Reads a character between tokens. -/
def between? (tokens : List JsonToken) (c : Char) : Option State :=
  if isBlank c then some ⟨.between, tokens⟩
  else if c = '"' then some ⟨.text (some []) none, tokens⟩
  else if isWordChar c then some ⟨.word [c], tokens⟩
  else (ofMark? c).map fun token => ⟨.between, token :: tokens⟩

/-- Reads one character; none when it cannot stand here. -/
def step? (state : State) (c : Char) : Option State :=
  match state.mode with
  | .between => between? state.tokens c
  | .word letters =>
    if isWordChar c then some ⟨.word (c :: letters), state.tokens⟩
    else (ofWord? letters.reverse).bind fun token => between? (token :: state.tokens) c
  | .text content half =>
    if c = '"' then
      let value := if half.isSome then none else content
      some ⟨.between, .string (value.map fun cs => String.ofList cs.reverse) :: state.tokens⟩
    else if c = '\\' then some ⟨.escape content half, state.tokens⟩
    else if c.toNat < 32 then none
    else some ⟨.text (append content half c) none, state.tokens⟩
  | .escape content half =>
    if c = 'u' then some ⟨.code content half [], state.tokens⟩
    else (escaped? c).map fun c => ⟨.text (append content half c) none, state.tokens⟩
  | .code content half digits =>
    (hexValue? c).map fun digit =>
      match digits with
      | [z, y, x] => ⟨afterCode content half (x * 4096 + y * 256 + z * 16 + digit), state.tokens⟩
      | digits => ⟨.code content half (digit :: digits), state.tokens⟩

/-- The tokens when the text ends; none inside a string. -/
def finish? (state : State) : Option (List JsonToken) :=
  match state.mode with
  | .between => some state.tokens.reverse
  | .word letters =>
    (ofWord? letters.reverse).map fun token => (token :: state.tokens).reverse
  | _ => none

/-- The tokens of a text. -/
def tokenize? (text : List Char) : Option (List JsonToken) :=
  (text.foldlM step? {}).bind finish?

end JsonToken

end CodeAtlas
