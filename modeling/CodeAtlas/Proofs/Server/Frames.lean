import CodeAtlas.Proofs.Json.Printable
import CodeAtlas.Proofs.Json.ReadBack
import CodeAtlas.Proofs.Server.Session

/-!
# Responses one to a line

A response is written on a line of its own, whatever texts it carries: the bytes of many
responses are cut at their line feeds into the lines that were written. Each line is the
response as a JSON value, and read back it has an identifier and either a result or an error.
-/

namespace CodeAtlas

namespace JsonNumber

/-- A whole number as a number of a value. -/
def ofInt : Int → JsonNumber
  | .ofNat n => .natural n
  | .negSucc n => .negative (n + 1)

/-- A whole number is written alike in a value and alone. -/
theorem writeNumber_ofInt (n : Int) : Json.writeNumber (ofInt n) = Json.writeInt n := by
  cases n <;> rfl

end JsonNumber

namespace Refusal

/-- A refusal as a value. -/
def toJson (refusal : Refusal) : Json :=
  .object [("code", .number (.ofInt refusal.code)), ("message", .string refusal.message)]

end Refusal

namespace Response

/-- The name under which a response gives its answer. -/
def answerName : Except Refusal Json → String
  | .ok _ => "result"
  | .error _ => "error"

/-- The answer of a response as a value. -/
def answerJson : Except Refusal Json → Json
  | .ok result => result
  | .error refusal => refusal.toJson

/-- A response as a value. -/
def toJson (response : Response) : Json :=
  .object [("jsonrpc", .string "2.0"), ("id", response.id),
    (answerName response.answer, answerJson response.answer)]

/-- The line of a response is its value on one line. -/
theorem line_eq_compact (response : Response) : response.line = response.toJson.compact := by
  obtain ⟨id, answer⟩ := response
  unfold line Json.compact
  cases answer with
  | ok result =>
    simp [lineChars, answerChars, label, toJson, answerName, answerJson, Json.compactChars,
      Json.compactFields]
  | error refusal =>
    simp [lineChars, answerChars, label, toJson, answerName, answerJson, Refusal.toJson,
      Json.compactChars, Json.compactFields, JsonNumber.writeNumber_ofInt]

/-- A line holds no control character. -/
theorem printable_line (response : Response) : Chars.Printable response.line.toList := by
  rw [line_eq_compact, Json.compact, String.toList_ofList]
  exact Json.printable_compactChars response.toJson

/-- A line is not empty. -/
theorem line_ne_empty (response : Response) : response.line ≠ "" := by
  intro empty
  have none := congrArg String.toList empty
  rw [line, String.toList_ofList] at none
  cases none

/-- A line is read back as an object with three fields: the protocol version, the identifier,
and the answer under its name. -/
theorem parse?_line (response : Response) : RawJson.parse? response.line =
    some (.object [(some "jsonrpc", .string (some "2.0")), (some "id", response.id.spelled),
      (some (answerName response.answer), (answerJson response.answer).spelled)]) := by
  rw [line_eq_compact, Json.parse?_compact]
  simp [toJson, Json.spelled, Json.spelledFields]

/-! ## Many responses -/

/-- What a writer holds after responses were written to it one after the other. -/
def written (responses : List Response) : ByteArray :=
  responses.foldl (fun sent response => sent ++ response.frame) .empty

/-- The bytes of a frame are those of its line and a line feed. -/
theorem toList_frame (response : Response) :
    response.frame.data.toList = Text.utf8 response.line ++ [10] := by
  rw [frame, Text.toList_data_toUTF8, Text.utf8_lineFeed]

/-- Frames are written after what stands there. -/
theorem toList_foldl_frame (responses : List Response) (sent : ByteArray) :
    (responses.foldl (fun sent response => sent ++ response.frame) sent).data.toList =
      sent.data.toList ++ responses.flatMap fun response => Text.utf8 response.line ++ [10] := by
  induction responses generalizing sent with
  | nil => exact (List.append_nil _).symm
  | cons response responses ih =>
    rw [List.foldl_cons, ih, ByteArray.data_append, Array.toList_append, toList_frame,
      List.flatMap_cons, List.append_assoc]

/-- Frames are cut into their lines. -/
theorem byteLines_frames (responses : List Response) :
    byteLines (responses.flatMap fun response => Text.utf8 response.line ++ [10]) =
      responses.map fun response => Text.utf8 response.line := by
  induction responses with
  | nil => rfl
  | cons response responses ih =>
    have single : 10 ∉ Text.utf8 response.line :=
      mt mem_utf8_lineFeed.mp response.printable_line.single
    rw [List.flatMap_cons, List.append_assoc, List.singleton_append, byteLines_append single, ih,
      List.map_cons]

/-- The bytes of responses that were written one after the other are cut at their line feeds
into one line for each response, in order. Each line is the response as a value on one line: it
is not empty, holds no line feed, and reads back as an object with exactly one field named
`result` or `error`, which is `result` when there is one and `error` when there is a refusal. -/
theorem written_line_by_line (responses : List Response) :
    byteLines (written responses).data.toList =
      responses.map (fun response => Text.utf8 response.line) ∧
    ∀ response : Response, response.line = response.toJson.compact ∧ response.line ≠ "" ∧
      '\n' ∉ response.line.toList ∧
      ∃ fields, RawJson.parse? response.line = some (.object fields) ∧
        fields.map Prod.fst =
          [some "jsonrpc", some "id", some (answerName response.answer)] ∧
        (fields.filter fun field =>
          field.1 = some "result" ∨ field.1 = some "error").length = 1 := by
  constructor
  · rw [written, toList_foldl_frame]
    exact byteLines_frames responses
  · intro response
    refine ⟨response.line_eq_compact, response.line_ne_empty, response.printable_line.single, _,
      response.parse?_line, rfl, ?_⟩
    cases response.answer <;> rfl

/-- Two responses whose texts have line breaks are two lines. -/
example : (byteLines (written [⟨.string "1\n2", .ok (.string "f()\ng()\n")⟩,
    ⟨.null, .error (.badParams "no\nfile")⟩]).data.toList).length = 2 := by
  decide +kernel

end Response

end CodeAtlas
