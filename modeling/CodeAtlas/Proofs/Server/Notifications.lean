import CodeAtlas.Proofs.Server.Session

/-!
# Notifications

The method of a request alone decides whether it is a notification. A method that begins
with `notifications/` is never answered, even when the request carries an identifier, and
every other request is answered once, whatever its method and its parameters, under its
identifier, which is null when it carries none.
-/

namespace CodeAtlas

namespace Session

/-- What a line may expect to be written for it. -/
structure Due (line : String) (written : List String) : Prop where
  single : written.length ≤ 1
  /-- A notification is not answered, whatever its identifier. -/
  silent : ∀ request, Request.ofLine? (Text.trim line) = some request →
    Text.startsWith "notifications/" request.method = true → written = []
  /-- Any other request gets one response, under its identifier. -/
  answered : ∀ request, Request.ofLine? (Text.trim line) = some request →
    Text.startsWith "notifications/" request.method = false →
      (∃ result, written = [Response.resultLine request.id result]) ∨
        ∃ code message, written = [Response.errorLine request.id code message]

/-- A blank text is no request. -/
theorem ofLine?_empty : Request.ofLine? "" = none := by decide +kernel

/-- An answer to a line is what the line may expect. -/
theorem Answered.due {line : String} {written : List String} (answer : Answered line written) :
    Due line written := by
  cases answer with
  | blank empty =>
    refine ⟨Nat.zero_le 1, fun _ _ _ => rfl, fun request read => ?_⟩
    rw [empty, ofLine?_empty] at read
    cases read
  | unreadable _ invalid =>
    refine ⟨Nat.le_refl 1, fun request read => ?_, fun request read => ?_⟩ <;>
      cases invalid.symm.trans read
  | notification _ read silent =>
    refine ⟨Nat.zero_le 1, fun _ _ _ => rfl, fun request again asking => ?_⟩
    cases read.symm.trans again
    cases silent.symm.trans asking
  | result _ read asking result =>
    refine ⟨Nat.le_refl 1, fun request again silent => ?_, fun request again _ => ?_⟩ <;>
      cases read.symm.trans again
    · cases silent.symm.trans asking
    · exact .inl ⟨result, rfl⟩
  | refusal _ read asking code message =>
    refine ⟨Nat.le_refl 1, fun request again silent => ?_, fun request again _ => ?_⟩ <;>
      cases read.symm.trans again
    · cases silent.symm.trans asking
    · exact .inr ⟨code, message, rfl⟩

/-- What a server writes falls into one part for each line of its input, in order, and each
part is what the line may expect: nothing for a notification, whatever its identifier, and
for every other request one response, under its identifier, whatever its method. -/
theorem run_due (engine : Engine) (input : ByteArray) :
    ∃ written : List (List String), run engine input = written.flatten ∧
      List.Forall₂ Due (inputLines input) written := by
  have answered : List.Forall₂
      (fun line (response : Option Response) =>
        Answered line (response.toList.map Response.line))
      (inputLines input)
      ((Caches.serve (respond engine) (inputLines input)).run engine.freshCaches).1 := by
    apply Caches.serve_forall₂
    intro line caches
    exact respond_answered engine line caches
  unfold run
  rw [responses_eq_serve, StateT.run_map]
  refine ⟨((Caches.serve (respond engine) (inputLines input)).run engine.freshCaches).1.map
    fun response => response.toList.map Response.line, ?_, ?_⟩
  · rw [← List.flatMap_def, ← List.map_flatMap]
    rfl
  · rw [List.forall₂_map_right_iff]
    exact answered.imp fun _ _ answer => answer.due

/-- Whether a text is an object that gives no identifier. -/
def isAnonymous (line : String) : Bool :=
  match RawJson.parse? line with
  | some (.object fields) => (Request.valuesOf fields "id").isEmpty
  | _ => false

/-- A request without an identifier. -/
def anonymousPing : String := "\x7b\"jsonrpc\":\"2.0\",\"method\":\"ping\"\x7d"

/-- A notification with an identifier. -/
def numberedNotification : String :=
  "\x7b\"jsonrpc\":\"2.0\",\"id\":1,\"method\":\"notifications/initialized\"\x7d"

/-- It is not the identifier that decides: a request without one is answered, and one with
an identifier is not. -/
theorem run_due_by_method :
    (isAnonymous anonymousPing = true ∧ (Request.ofLine? anonymousPing).isSome ∧
      run constantEngine (anonymousPing ++ "\n").toUTF8 =
        ["\x7b\"jsonrpc\":\"2.0\",\"id\":null,\"result\":\x7b\x7d\x7d"]) ∧
    (Request.ofLine? numberedNotification).any (fun request => request.id matches .number _) ∧
      run constantEngine (numberedNotification ++ "\n").toUTF8 = [] := by
  refine ⟨⟨?_, ?_, ?_⟩, ?_, ?_⟩ <;> decide +kernel

end Session

end CodeAtlas
