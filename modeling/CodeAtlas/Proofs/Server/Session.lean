import CodeAtlas.Proofs.Server.Steady
import CodeAtlas.Proofs.Text.ByteLines
import Mathlib.Data.List.Basic

/-!
# Sessions line by line

A session writes for its input what new servers would write for the lines of the input,
one line each. What is written for one line depends on the line alone: nothing for a blank
line or a notification, a parse error for a line that is no request, and for every other
request one response with its identifier and either a result or an error.
-/

namespace CodeAtlas

/-! ## Written responses -/

namespace Response

/-- The line that carries a result. -/
def resultLine (id result : Json) : String :=
  "\x7b\"jsonrpc\":\"2.0\",\"id\":" ++ id.compact ++ ",\"result\":" ++ result.compact ++ "\x7d"

/-- The line that carries an error. -/
def errorLine (id : Json) (code : Int) (message : String) : String :=
  "\x7b\"jsonrpc\":\"2.0\",\"id\":" ++ id.compact ++ ",\"error\":\x7b\"code\":" ++
    String.ofList (Json.writeInt code) ++ ",\"message\":" ++
    String.ofList (Json.writeString message) ++ "\x7d\x7d"

/-- A response with a result is written with the result alone. -/
theorem line_ok (id result : Json) : (⟨id, .ok result⟩ : Response).line = resultLine id result := by
  apply String.toList_inj.mp
  unfold line resultLine lineChars answerChars Json.compact
  simp only [String.toList_ofList, String.toList_append, List.append_assoc]
  rfl

/-- A response with a refusal is written with the error alone. -/
theorem line_error (id : Json) (refusal : Refusal) :
    (⟨id, .error refusal⟩ : Response).line = errorLine id refusal.code refusal.message := by
  apply String.toList_inj.mp
  unfold line errorLine lineChars answerChars Json.compact
  simp only [String.toList_ofList, String.toList_append, List.append_assoc]
  rfl

end Response

namespace Session

/-- What is written for a line. -/
inductive Answered (line : String) : List String → Prop where
  /-- Nothing for white space. -/
  | blank (empty : Text.trim line = "") : Answered line []
  /-- A parse error without an identifier for what is no request. -/
  | unreadable (visible : Text.trim line ≠ "")
    (invalid : Request.ofLine? (Text.trim line) = none) :
    Answered line [Response.errorLine .null (-32700) "Parse error"]
  /-- Nothing for a notification. -/
  | notification {request : Request} (visible : Text.trim line ≠ "")
    (read : Request.ofLine? (Text.trim line) = some request)
    (silent : Text.startsWith "notifications/" request.method = true) : Answered line []
  /-- A result for a request. -/
  | result {request : Request} (visible : Text.trim line ≠ "")
    (read : Request.ofLine? (Text.trim line) = some request)
    (asking : Text.startsWith "notifications/" request.method = false) (result : Json) :
    Answered line [Response.resultLine request.id result]
  /-- An error for a request. -/
  | refusal {request : Request} (visible : Text.trim line ≠ "")
    (read : Request.ofLine? (Text.trim line) = some request)
    (asking : Text.startsWith "notifications/" request.method = false) (code : Int)
    (message : String) :
    Answered line [Response.errorLine request.id code message]

/-- The methods of notifications are those whose name begins with `notifications/`. -/
theorem ofName_eq_notification (name : String) :
    Method.ofName name = .notification ↔ Text.startsWith "notifications/" name = true := by
  unfold Method.ofName
  split
  · decide
  · decide
  · decide
  · decide
  · split <;> simp_all

/-- A request gets no answer exactly if it is a notification. -/
theorem answer_isSome (engine : Engine) (request : Request) (caches : Caches) :
    ((answer engine request).run caches).1.isSome =
      !Text.startsWith "notifications/" request.method := by
  have silent := ofName_eq_notification request.method
  unfold answer
  cases method : Method.ofName request.method with
  | notification =>
    rw [silent.mp method]
    rfl
  | _ =>
    rw [method] at silent
    have asking : Text.startsWith "notifications/" request.method = false := by
      simpa using silent
    rw [asking]
    rfl

/-- From whatever caches, a line is answered according to what it is. -/
theorem respond_answered (engine : Engine) (line : String) (caches : Caches) :
    Answered line (((respond engine line).run caches).1.toList.map Response.line) := by
  unfold respond Incoming.ofLine?
  by_cases visible : Text.trim line = ""
  · rw [if_pos visible]
    exact .blank visible
  · rw [if_neg visible]
    cases read : Request.ofLine? (Text.trim line) with
    | none =>
      change Answered line [Response.unreadable.line]
      rw [Response.unreadable, Response.line_error]
      exact .unreadable visible read
    | some request =>
      have answered := answer_isSome engine request caches
      change Answered line ((((answer engine request).run caches).1.map
        (⟨request.id, ·⟩ : Except Refusal Json → Response)).toList.map Response.line)
      cases written : ((answer engine request).run caches).1 with
      | none =>
        rw [written] at answered
        exact .notification visible read (by simpa using answered)
      | some outcome =>
        rw [written] at answered
        have asking : Text.startsWith "notifications/" request.method = false := by
          simpa using answered
        cases outcome with
        | ok result =>
          change Answered line [(⟨request.id, .ok result⟩ : Response).line]
          rw [Response.line_ok]
          exact .result visible read asking result
        | error refusal =>
          change Answered line [(⟨request.id, .error refusal⟩ : Response).line]
          rw [Response.line_error]
          exact .refusal visible read asking refusal.code refusal.message

/-! ## Sessions -/

/-- The sources hashed in a session that starts from given caches. -/
def hashed (engine : Engine) (lines : List String) (caches : Caches) : List Source :=
  Caches.hashed (respond engine) (lineSources engine) lines caches

/-- The responses to lines are the answers to the lines, one after the other. -/
theorem responses_eq_serve (engine : Engine) (lines : List String) :
    responses engine lines =
      List.flatMap Option.toList <$> Caches.serve (respond engine) lines := by
  induction lines with
  | nil => rfl
  | cons line lines ih =>
    rw [responses, Caches.serve, ih]
    simp only [map_bind, bind_map_left, map_pure, List.flatMap_cons]

/-- What a new server writes for an input that is known line by line. -/
theorem run_eq_of_holds (engine : Engine) {input : ByteArray} {lines : List String}
    (held : Holds lines input.data.toList) :
    run engine input =
      (((Caches.serve (respond engine) lines).run engine.freshCaches).1.flatMap
        Option.toList).map Response.line := by
  unfold run inputLines
  rw [held.read, responses_eq_serve, StateT.run_map]
  rfl

/-- A line with its line feed is read as that line. -/
theorem holds_line {line : String} (single : '\n' ∉ line.toList) :
    Holds [line] (line ++ "\n").toUTF8.data.toList := by
  rw [Text.toList_data_toUTF8, Text.utf8_lineFeed]
  exact .line single .ended

/-- What a new server writes for one line is its answer to that line. -/
theorem run_line (engine : Engine) {line : String} (single : '\n' ∉ line.toList) :
    run engine (line ++ "\n").toUTF8 =
      ((respond engine line).run engine.freshCaches).1.toList.map Response.line := by
  rw [run_eq_of_holds engine (holds_line single), Caches.serve_single, List.flatMap_singleton]

/-- A session writes for its input what new servers write for each of its lines alone, in
order: nothing for blank lines and notifications, one parse error for a line that is no
request, and one response with its identifier and a result or an error for every other
request. The lines are those before the end of the input or before the first line that is
no text. It is assumed that SHA-256 does not collide on what the session hashes, and that
no identity holds a zero character. -/
theorem run_line_by_line (engine : Engine) (input : ByteArray) (lines : List String)
    (held : Holds lines input.data.toList)
    (separated : Sha256.Separates
      ((hashed engine lines engine.freshCaches).map Source.message))
    (plain : ∀ source ∈ hashed engine lines engine.freshCaches, source.Plain) :
    run engine input = lines.flatMap (fun line => run engine (line ++ "\n").toUTF8) ∧
      ∀ line ∈ lines, Answered line (run engine (line ++ "\n").toUTF8) := by
  have apart := Source.apart_of_separates separated plain
  have fresh : engine.freshCaches.Sound engine.analyzer (hashed engine lines engine.freshCaches) :=
    Caches.fresh_sound engine.analyzer _ engine.config.treeCacheSize
  have steady (line : String) (caches : Caches)
      (sound : caches.Sound engine.analyzer (hashed engine lines engine.freshCaches))
      (listed : lineSources engine line caches ⊆ hashed engine lines engine.freshCaches) :
      Caches.Steady engine.analyzer (hashed engine lines engine.freshCaches)
        (respond engine line) :=
    respond_steady apart sound listed
  have served := (Caches.serve_run steady fresh fresh lines (List.Subset.refl _)).1
  have alone : ∀ line ∈ lines, run engine (line ++ "\n").toUTF8 =
      ((respond engine line).run engine.freshCaches).1.toList.map Response.line :=
    fun line member => run_line engine (held.single line member)
  constructor
  · rw [run_eq_of_holds engine held, served, List.flatMap_map, List.map_flatMap]
    exact (List.flatMap_congr alone).symm
  · intro line member
    rw [alone line member]
    exact respond_answered engine line engine.freshCaches

/-- An engine to which every path leads to the same three bytes. -/
def constantEngine : Engine where
  config := {}
  analyzer := { parser :=
    { tree? := fun _ _ => some (.mk "call" true "" 0 3 []), knowsKind := fun _ _ => true } }
  files := {}
  source _ _ := .ok "f()".toUTF8

/-- A call that lists the symbols of a file. -/
def listingCall : String :=
  "\x7b\"jsonrpc\":\"2.0\",\"id\":1,\"method\":\"tools/call\",\"params\":" ++
    "\x7b\"name\":\"get_symbols\",\"arguments\":\x7b\"file_path\":\"a.py\"\x7d\x7d\x7d"

/-- A session with the same call before and after a blank line and a line that is no
request. -/
theorem run_line_by_line_repeated :
    let lines := [listingCall, "", "nonsense", listingCall]
    let input : ByteArray := ⟨(lines.flatMap fun line => Text.utf8 line ++ [10]).toArray⟩
    Holds lines input.data.toList ∧
      run constantEngine input =
        lines.flatMap (fun line => run constantEngine (line ++ "\n").toUTF8) := by
  intro lines input
  have held : Holds lines input.data.toList := by
    have single : ∀ line ∈ lines, '\n' ∉ line.toList := by decide +kernel
    simpa [input] using Holds.written single .ended
  have keys : hashed constantEngine lines constantEngine.freshCaches =
      [⟨"a.py", ⟨.python, "f()"⟩⟩, ⟨"a.py", ⟨.python, "f()"⟩⟩] := by decide +kernel
  have separated : Sha256.Separates
      ((hashed constantEngine lines constantEngine.freshCaches).map Source.message) := by
    rw [keys]
    decide +kernel
  have plain : ∀ source ∈ hashed constantEngine lines constantEngine.freshCaches,
      source.Plain := by
    rw [keys]
    decide +kernel
  exact ⟨held, (run_line_by_line constantEngine input lines held separated plain).1⟩

end Session

end CodeAtlas
