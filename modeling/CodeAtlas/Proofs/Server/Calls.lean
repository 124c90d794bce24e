import CodeAtlas.Proofs.Server.Lookups
import CodeAtlas.Proofs.Server.Notifications

/-!
# Tool calls and what refuses them

A call of a tool is refused for two reasons only: its parameters are no tool call, or no tool
of its name is in the catalogue. Whatever goes wrong after that, with the arguments, the files
or the engine, is a result, which holds one text and says that it is an error.
-/

namespace CodeAtlas

/-! ## The catalogue -/

namespace Tool

/-- The names that the catalogue lists. -/
def listedNames : List String :=
  (((catalogue.field? "tools").bind Json.asArray?).getD []).filterMap fun entry =>
    (entry.field? "name").bind Json.asString?

/-- The entry of a tool has its name. -/
theorem entry_name (tool : Tool) : tool.entry.field? "name" = some (.string tool.name) := by
  unfold entry
  rw [Json.field?_ofFields]
  rfl

/-- The catalogue lists the name of every tool. -/
theorem listedNames_eq : listedNames = all.map name := by
  have tools : catalogue.field? "tools" = some (.array (all.map entry)) := by
    unfold catalogue
    rw [Json.field?_ofFields]
    rfl
  unfold listedNames
  rw [tools, Option.bind_some, Json.asArray?, Option.getD_some, List.filterMap_map]
  have named : ((fun entry => (Json.field? entry "name").bind Json.asString?) ∘ entry) =
      some ∘ name := by
    funext tool
    simp only [Function.comp_apply, entry_name, Option.bind_some, Json.asString?]
  rw [named, List.filterMap_eq_map]

/-- A tool is called by the name that it has in the catalogue. -/
theorem ofName?_eq_some {tool : Tool} {called : String} :
    ofName? called = some tool ↔ tool.name = called := by
  constructor
  · intro found
    unfold ofName? at found
    split at found <;> cases found <;> rfl
  · rintro rfl
    cases tool <;> rfl

/-- The listed names are those that tools are called by. -/
theorem mem_listedNames {called : String} :
    called ∈ listedNames ↔ ∃ tool, ofName? called = some tool := by
  rw [listedNames_eq, List.mem_map]
  simp only [ofName?_eq_some]
  constructor
  · rintro ⟨tool, _, named⟩
    exact ⟨tool, named⟩
  · rintro ⟨tool, named⟩
    exact ⟨tool, by cases tool <;> decide, named⟩

end Tool

/-! ## Parameters -/

/-- What an object gives for a name is one of its fields. -/
theorem Json.mem_of_field? {fields : List (String × Json)} {name : String} {value : Json}
    (found : (Json.object fields).field? name = some value) : (name, value) ∈ fields := by
  obtain ⟨⟨label, inner⟩, first, rfl⟩ := Option.map_eq_some_iff.mp found
  have same : label = name := by simpa using List.find?_some first
  rw [← same]
  exact List.mem_of_find?_eq_some first

namespace ToolCall

/-- The parameters that are a tool call: an object with a name, or an array of a name and the
arguments. Arguments that are left out are null. -/
inductive Reads : Json → ToolCall → Prop
  | object {fields : List (String × Json)} {name : String}
    (named : (Json.object fields).field? "name" = some (.string name))
    (texts : ∀ value, ("name", value) ∈ fields → ∃ text, value = .string text) :
    Reads (.object fields) ⟨name, ((Json.object fields).field? "arguments").getD .null⟩
  | name (name : String) : Reads (.array [.string name]) ⟨name, .null⟩
  | pair (name : String) (arguments : Json) :
    Reads (.array [.string name, arguments]) ⟨name, arguments⟩

/-- Only the field of the name has to be a text. -/
theorem checkField_eq_ok {label : String} {value : Json} :
    record.checkField (label, value) = .ok () ↔
      (label = "name" → ∃ text, value = .string text) := by
  unfold Record.checkField record
  by_cases named : label = "name"
  · subst named
    cases value <;> simp [Shape.string]
  · by_cases given : label = "arguments"
    · subst given
      simp [Shape.any]
    · simp [named, Ne.symm named, Ne.symm given]

/-- All checks of a list pass exactly when each does. -/
theorem forM_eq_ok {α ε : Type} {check : α → Except ε Unit} {items : List α} :
    items.forM check = .ok () ↔ ∀ item ∈ items, check item = .ok () := by
  induction items with
  | nil => simp [pure, Except.pure]
  | cons item items ih =>
    rw [List.forall_mem_cons, ← ih]
    change (check item >>= fun _ => items.forM check) = .ok () ↔ _
    cases check item with
    | error error => exact ⟨nofun, nofun⟩
    | ok passed => exact (and_iff_right rfl).symm

/-- The values of an object are its name, which has to be there, and its arguments. -/
theorem mapM_valueIn (value : Json) :
    record.fields.mapM (Record.valueIn value) =
      match value.field? "name" with
      | none => .error (.missingField "name")
      | some name => .ok [name, (value.field? "arguments").getD .null] := by
  unfold record
  simp only [List.mapM_cons, List.mapM_nil, Record.valueIn]
  cases value.field? "name" with
  | none => rfl
  | some name => cases value.field? "arguments" <;> rfl

/-- The checks of an object pass when what it gives as its name is a text. -/
theorem checks_eq_ok {fields : List (String × Json)} :
    fields.forM record.checkField = .ok () ↔
      ∀ value, ("name", value) ∈ fields → ∃ text, value = .string text := by
  rw [forM_eq_ok]
  constructor
  · intro checked value member
    exact checkField_eq_ok.mp (checked _ member) rfl
  · rintro texts ⟨label, value⟩ member
    refine checkField_eq_ok.mpr ?_
    rintro rfl
    exact texts value member

/-- An object is read as the tool call that it is. -/
theorem ofParams_object {fields : List (String × Json)} {call : ToolCall} :
    ofParams (.object fields) = .ok call ↔ Reads (.object fields) call := by
  have read : record.read (.object fields) = (fields.forM record.checkField >>= fun _ =>
      record.fields.mapM (Record.valueIn (.object fields))) := rfl
  unfold ofParams
  rw [read, mapM_valueIn]
  cases checked : fields.forM record.checkField with
  | error error =>
    refine ⟨nofun, fun reads => ?_⟩
    cases reads with
    | object named texts => cases checked.symm.trans (checks_eq_ok.mpr texts)
  | ok passed =>
    have texts := checks_eq_ok.mp checked
    cases named : (Json.object fields).field? "name" with
    | none =>
      refine ⟨nofun, fun reads => ?_⟩
      cases reads with
      | object given _ => cases named.symm.trans given
    | some value =>
      obtain ⟨name, rfl⟩ := texts value (Json.mem_of_field? named)
      constructor
      · rintro ⟨⟩
        exact .object named texts
      · intro reads
        cases reads with
        | object given _ =>
          cases named.symm.trans given
          rfl

/-- An array is read as the tool call that it is. -/
theorem ofParams_array {items : List Json} {call : ToolCall} :
    ofParams (.array items) = .ok call ↔ Reads (.array items) call := by
  cases items with
  | nil => exact ⟨nofun, nofun⟩
  | cons first others =>
    cases first with
    | string name =>
      match others with
      | [] =>
        constructor
        · rintro ⟨⟩
          exact .name name
        · rintro ⟨⟩
          rfl
      | [arguments] =>
        constructor
        · rintro ⟨⟩
          exact .pair name arguments
        · rintro ⟨⟩
          rfl
      | second :: third :: more =>
        have long : 2 < (Json.string name :: second :: third :: more).length := by simp
        have read : record.read (.array (.string name :: second :: third :: more)) =
            if 2 < (Json.string name :: second :: third :: more).length then
              .error (.tooLong (more.length + 3))
            else .ok [.string name, second] := rfl
        unfold ofParams
        rw [read, if_pos long]
        exact ⟨nofun, nofun⟩
    | _ => exact ⟨nofun, nofun⟩

/-- Parameters are read as the tool call that they are. -/
theorem ofParams_eq_ok {params : Json} {call : ToolCall} :
    ofParams params = .ok call ↔ Reads params call := by
  cases params with
  | object fields => exact ofParams_object
  | array items => exact ofParams_array
  | _ => exact ⟨nofun, nofun⟩

end ToolCall

/-! ## Results -/

/-- Whether the content of a result is one text. -/
def HoldsText (result : Json) (text : String) : Prop :=
  ∃ item, result.field? "content" = some (.array [item]) ∧
    item.field? "type" = some (.string "text") ∧ item.field? "text" = some (.string text)

/-- The content that is one text has its type and the text. -/
theorem holdsText_textContent {result : Json} {text : String}
    (content : result.field? "content" = some (textContent text)) : HoldsText result text := by
  refine ⟨_, content, ?_, ?_⟩ <;> rw [Json.field?_ofFields] <;> rfl

/-- What a client is shown of the outcome of a call: the text of an answer, or the words for a
failure, which are marked as an error. -/
structure ShowsOutcome (result : Json) (outcome : Except ToolFailure ToolAnswer) : Prop where
  answered : ∀ found, outcome = .ok found →
    HoldsText result found.text ∧ result.field? "isError" = none
  failed : ∀ failure, outcome = .error failure →
    HoldsText result ("Error: " ++ failure.message) ∧
      result.field? "isError" = some (.bool true)

/-- The result of a call shows its outcome. -/
theorem callResult_shows (outcome : Except ToolFailure ToolAnswer) :
    ShowsOutcome (callResult outcome) outcome := by
  constructor
  · rintro found rfl
    refine ⟨holdsText_textContent ?_, ?_⟩ <;>
      rw [callResult, Json.field?_ofFields] <;> rfl
  · rintro failure rfl
    refine ⟨holdsText_textContent ?_, ?_⟩ <;>
      rw [callResult, Json.field?_ofFields] <;> rfl

namespace Session

/-! ## Answers -/

/-- Parameters that are no tool call are refused. -/
theorem answerCall_unread (engine : Engine) {params : Json} (caches : Caches)
    (unread : ¬∃ call, ToolCall.Reads params call) :
    ∃ message, ((answerCall engine params).run caches).1 = .error (.badParams message) := by
  unfold answerCall
  cases read : ToolCall.ofParams params with
  | error error => exact ⟨_, rfl⟩
  | ok call => exact absurd ⟨call, ToolCall.ofParams_eq_ok.mp read⟩ unread

/-- A call of a tool that is not listed is refused. -/
theorem answerCall_unlisted (engine : Engine) {params : Json} {call : ToolCall} (caches : Caches)
    (reads : ToolCall.Reads params call) (unlisted : call.name ∉ Tool.listedNames) :
    ∃ message, ((answerCall engine params).run caches).1 = .error (.badParams message) := by
  have none : Tool.ofName? call.name = none := by
    rw [Option.eq_none_iff_forall_ne_some]
    exact fun tool found => unlisted (Tool.mem_listedNames.mpr ⟨tool, found⟩)
  unfold answerCall
  rw [ToolCall.ofParams_eq_ok.mpr reads]
  simp only [none]
  exact ⟨_, rfl⟩

/-- A call of a listed tool has a result, which shows the outcome of the tool of that name. -/
theorem answerCall_listed (engine : Engine) {params : Json} {call : ToolCall} (caches : Caches)
    (reads : ToolCall.Reads params call) (listed : call.name ∈ Tool.listedNames) :
    ∃ tool, tool.name = call.name ∧
      ((answerCall engine params).run caches).1 =
        .ok (callResult ((engine.call call.arguments tool).run.run caches).1) := by
  obtain ⟨tool, found⟩ := Tool.mem_listedNames.mp listed
  refine ⟨tool, Tool.ofName?_eq_some.mp found, ?_⟩
  unfold answerCall
  rw [ToolCall.ofParams_eq_ok.mpr reads]
  simp only [found]
  rfl

/-- A line that is a request gets what the request is answered with, under its identifier. -/
theorem respond_of_request (engine : Engine) {line : String} {request : Request}
    (caches : Caches) (read : Request.ofLine? (Text.trim line) = some request) :
    ((respond engine line).run caches).1 =
      ((answer engine request).run caches).1.map (⟨request.id, ·⟩) := by
  have visible : Text.trim line ≠ "" := by
    intro blank
    rw [blank, ofLine?_empty] at read
    cases read
  unfold respond Incoming.ofLine?
  rw [if_neg visible, read]
  rfl

/-- A request that calls a tool is refused exactly when its parameters are no tool call or the
tool is not in the catalogue, and always as one with bad parameters. Every other call is
answered by the tool of its name, with a result whose content is one text: the text of the
answer, or, marked as an error, the words for what failed. A line that is such a request gets
this answer in one response, under the identifier of the request. -/
theorem toolCall_answered (engine : Engine) (request : Request) (caches : Caches)
    (calling : request.method = "tools/call") :
    ∃ given, ((answer engine request).run caches).1 = some given ∧
      (∀ line, Request.ofLine? (Text.trim line) = some request →
        ((respond engine line).run caches).1 = some ⟨request.id, given⟩) ∧
      ((∃ refusal, given = .error refusal) ↔
        ¬∃ call, ToolCall.Reads request.params call ∧ call.name ∈ Tool.listedNames) ∧
      (∀ refusal, given = .error refusal → refusal.code = -32602) ∧
      ∀ call, ToolCall.Reads request.params call → call.name ∈ Tool.listedNames →
        ∃ tool result, tool.name = call.name ∧ given = .ok result ∧
          ShowsOutcome result ((engine.call call.arguments tool).run.run caches).1 := by
  have called : ((answer engine request).run caches).1 =
      some ((answerCall engine request.params).run caches).1 := by
    unfold answer
    rw [calling]
    rfl
  refine ⟨((answerCall engine request.params).run caches).1, called, ?_, ?_⟩
  · intro line read
    rw [respond_of_request engine caches read, called]
    rfl
  · by_cases fits : ∃ call, ToolCall.Reads request.params call ∧ call.name ∈ Tool.listedNames
    · -- There is a result, which is no refusal.
      have answered (call : ToolCall) (reads : ToolCall.Reads request.params call)
          (listed : call.name ∈ Tool.listedNames) :=
        answerCall_listed engine caches reads listed
      obtain ⟨call, reads, listed⟩ := fits
      obtain ⟨_, _, result⟩ := answered call reads listed
      refine ⟨?_, ?_, ?_⟩
      · rw [result]
        exact ⟨nofun, fun none => absurd ⟨call, reads, listed⟩ none⟩
      · rw [result]
        exact nofun
      · intro other again found
        obtain ⟨tool, named, shown⟩ := answered other again found
        exact ⟨tool, _, named, shown, callResult_shows _⟩
    · have refused : ∃ message, ((answerCall engine request.params).run caches).1 =
          .error (.badParams message) := by
        by_cases read : ∃ call, ToolCall.Reads request.params call
        · obtain ⟨call, reads⟩ := read
          exact answerCall_unlisted engine caches reads fun listed => fits ⟨call, reads, listed⟩
        · exact answerCall_unread engine caches read
      obtain ⟨message, refusal⟩ := refused
      rw [refusal]
      refine ⟨⟨fun _ => fits, fun _ => ⟨_, rfl⟩⟩, ?_, ?_⟩
      · rintro _ ⟨⟩
        rfl
      · exact fun call reads listed => absurd ⟨call, reads, listed⟩ fits

/-- A request that calls a tool with a number in the place of its arguments. -/
def numberCall : Request where
  version := "2.0"
  id := .nat 1
  method := "tools/call"
  params := .array [.string "get_symbols", .nat 5]

/-- A call with a number for its arguments has a result, which says what is missing. -/
theorem toolCall_answered_number :
    numberCall.method = "tools/call" ∧
    ∃ result, ((answer constantEngine numberCall).run constantEngine.freshCaches).1 =
        some (.ok result) ∧
      HoldsText result "Error: Missing 'file_path' argument" ∧
      result.field? "isError" = some (.bool true) := by
  obtain ⟨_, answered, _, _, _, results⟩ :=
    toolCall_answered constantEngine numberCall constantEngine.freshCaches rfl
  have reads : ToolCall.Reads numberCall.params ⟨"get_symbols", .nat 5⟩ := .pair _ _
  have listed : "get_symbols" ∈ Tool.listedNames := Tool.mem_listedNames.mpr ⟨.symbols, rfl⟩
  obtain ⟨tool, result, named, rfl, shows⟩ := results _ reads listed
  obtain rfl : tool = .symbols := by
    have found : Tool.ofName? "get_symbols" = some tool := Tool.ofName?_eq_some.mpr named
    cases found
    rfl
  exact ⟨rfl, result, answered, shows.failed (.missingArgument "file_path") rfl⟩

end Session

end CodeAtlas
