import CodeAtlas.Json.Reader
import CodeAtlas.Json.Writer
import CodeAtlas.Text.Basic
import CodeAtlas.Text.ByteLines

/-!
# Messages

Requests come one to a line and every response is written on a line of its own. A
request is an object or the array of its fields. What an object holds beside the four
known fields is never read, so such a part only has to be spelled correctly.
-/

namespace CodeAtlas

/-- A request, or a notification when it has no identifier. -/
structure Request where
  version : String
  id : Json
  method : String
  params : Json

namespace Request

/-- The number of levels of arrays and objects in a field of a request. -/
def levelLimit : Nat := 126

/-- Reads a field that has to be a text. -/
def readText? (value : RawJson) : Option String :=
  (value.read? levelLimit).bind Json.asString?

/-- The values an object gives for a name. -/
def valuesOf (fields : List (Option String × RawJson)) (name : String) : List RawJson :=
  (fields.filter fun field => field.1 = some name).map Prod.snd

/-- Reads a field that stands exactly once. -/
def required? (values : List RawJson) : Option String :=
  match values with
  | [value] => readText? value
  | _ => none

/-- Reads a field that stands at most once; it is null when left out. -/
def optional? (values : List RawJson) : Option Json :=
  match values with
  | [] => some .null
  | [value] => value.read? levelLimit
  | _ => none

/-- Reads a request from the text of a line. -/
def ofRaw? : RawJson → Option Request
  | .object fields =>
    if fields.all fun field => field.1.isSome then do
      let version ← required? (valuesOf fields "jsonrpc")
      let id ← optional? (valuesOf fields "id")
      let method ← required? (valuesOf fields "method")
      let params ← optional? (valuesOf fields "params")
      return { version, id, method, params }
    else none
  | .array (version :: id :: method :: rest) => do
    let version ← readText? version
    let id ← id.read? levelLimit
    let method ← readText? method
    let params ← optional? rest
    return { version, id, method, params }
  | _ => none

/-- Reads a request from a line. -/
def ofLine? (line : String) : Option Request := (RawJson.parse? line).bind ofRaw?

end Request

/-- Why a request is refused. -/
inductive Refusal where
  /-- The line is no request. -/
  | unreadable
  | unknownMethod
  | badParams (message : String)
  | internal (message : String)
  deriving DecidableEq, Repr

namespace Refusal

/-- The code of a refusal. -/
def code : Refusal → Int
  | .unreadable => -32700
  | .unknownMethod => -32601
  | .badParams _ => -32602
  | .internal _ => -32603

/-- The words of a refusal. -/
def message : Refusal → String
  | .unreadable => "Parse error"
  | .unknownMethod => "Method not found"
  | .badParams message => message
  | .internal message => message

end Refusal

/-- The response to a request: the identifier of the request, and a result or a refusal. -/
structure Response where
  id : Json
  answer : Except Refusal Json

namespace Response

/-- The response to a line that is no request. -/
def unreadable : Response := ⟨.null, .error .unreadable⟩

/-- A name with its colon. -/
def label (name : String) : List Char := Json.writeString name ++ [':']

/-- The result of a response, or the code and words of its refusal. -/
def answerChars : Except Refusal Json → List Char
  | .ok result => label "result" ++ result.compactChars
  | .error refusal =>
    label "error" ++ ['\x7b'] ++ label "code" ++ Json.writeInt refusal.code ++ [',']
      ++ label "message" ++ Json.writeString refusal.message ++ ['\x7d']

/-- The line of a response, without its line feed: the protocol version, the identifier
and the answer, in this order. -/
def lineChars (response : Response) : List Char :=
  ['\x7b'] ++ label "jsonrpc" ++ Json.writeString "2.0" ++ [','] ++ label "id"
    ++ response.id.compactChars ++ [','] ++ answerChars response.answer ++ ['\x7d']

/-- The line of a response, without its line feed. -/
def line (response : Response) : String := String.ofList response.lineChars

/-- The bytes that a response is written as: its line and a line feed. -/
def frame (response : Response) : ByteArray := (response.line ++ "\n").toUTF8

end Response

/-- What a client sent, line by line. -/
inductive Incoming where
  | request (request : Request)
  /-- A line that is no request. -/
  | unreadable

namespace Incoming

/-- Reads a line; a line with nothing but white space holds nothing. -/
def ofLine? (line : String) : Option Incoming :=
  let content := Text.trim line
  if content = "" then none
  else
    match Request.ofLine? content with
    | some found => some (.request found)
    | none => some .unreadable

end Incoming

/-- The lines of an input. The input counts as ended before the first line that is not
valid UTF-8. -/
def inputLines (input : ByteArray) : List String := textsUntilInvalid (byteLines input.data.toList)

end CodeAtlas
