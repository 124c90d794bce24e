import CodeAtlas.Proofs.Engine.Steady
import CodeAtlas.Server.Session

/-!
# Answers do not depend on the caches

Every tool, and so every line of a session, is shown to be steady once the sources that it
hashes are among the known ones. A call that cannot be read hashes nothing.
-/

namespace CodeAtlas

open Caches

variable {engine : Engine} {known : List Source} {α β ε : Type}

/-! ## Tools -/

/-- Steady work on a value that is known without the caches is steady. -/
theorem Calling.bind_steady {failure : ε → ToolFailure} {result : Except ε α}
    {next : α → Calling β}
    (rest : ∀ value, result = .ok value → Steady engine.analyzer known (next value).run) :
    Steady engine.analyzer known (Calling.ofExcept failure result >>= next).run := by
  unfold Calling.ofExcept
  cases result with
  | error error => exact (yields_ofExcept _).bindError.steady
  | ok value => exact Steady.bindOk (yields_ofExcept (.ok value)) (rest value rfl)

/-- Steady work of the engine is steady as work of a call. -/
theorem Calling.ofAnalysis_steady {work : Analysis α}
    (steady : Steady engine.analyzer known work.run) :
    Steady engine.analyzer known (Calling.ofAnalysis work).run :=
  steady.bind fun _ _ => (yields_pure _).steady

namespace Engine

/-- The sources hashed by a look-up of something with a name in a file. -/
def lookupSources (engine : Engine) (arguments : Json) (argument : String) : List Source :=
  match Arguments.text arguments "file_path", Arguments.text arguments argument with
  | .ok path, .ok _ =>
    match engine.load path none with
    | .ok unit => engine.inlineSources unit
    | .error _ => []
  | _, _ => []

/-- The sources hashed by a listing of a file. -/
def listingSources (engine : Engine) (arguments : Json) : List Source :=
  match Arguments.text arguments "file_path" with
  | .ok path =>
    match engine.load path none with
    | .ok unit => engine.analyzer.parsedSources path unit
    | .error _ => []
  | .error _ => []

/-- The sources hashed by a search, from given caches. -/
def querySources (engine : Engine) (arguments : Json) (caches : Caches) : List Source :=
  match Arguments.query engine.config arguments with
  | .ok query => engine.scopeSources query caches
  | .error _ => []

/-- The sources hashed by a call of a tool, from given caches. -/
def callSources (engine : Engine) (arguments : Json) (caches : Caches) : Tool → List Source
  | .symbols => engine.listingSources arguments
  | .function => engine.lookupSources arguments "function_name"
  | .class => engine.lookupSources arguments "class_name"
  | .signature => engine.lookupSources arguments "function_name"
  | .lines => []
  | .search => engine.querySources arguments caches

/-- Choosing a symbol of a file and working on with it is steady, when the work is steady
for every symbol of the loaded text. -/
theorem lookup_bind_steady (apart : Source.Apart known) {path : String}
    {choose : List Symbol → Option Symbol} {failure : ToolFailure}
    {next : SourceUnit × Symbol → Calling β}
    (listed : ∀ unit, engine.load path none = .ok unit → engine.inlineSources unit ⊆ known)
    (rest : ∀ unit symbol, engine.load path none = .ok unit →
      Steady engine.analyzer known (next (unit, symbol)).run) :
    Steady engine.analyzer known ((do
      let unit ← engine.loadFor path
      match ← Calling.ofAnalysis (do return choose (← engine.extractSymbols unit)) with
      | some found => return (unit, found)
      | none => throw failure : Calling (SourceUnit × Symbol)) >>= next).run := by
  rw [bind_assoc]
  apply Calling.bind_steady
  intro unit loaded
  rw [bind_assoc]
  apply (Calling.ofAnalysis_steady (lookup_steady apart choose (listed unit loaded))).bindExcept
  intro found _
  cases found with
  | none => exact (yields_throw _).bindError.steady
  | some symbol => exact Steady.bindOk (yields_pure _) (rest unit symbol loaded)

/-- Reporting on a scope is steady. -/
theorem report_steady (apart : Source.Apart known) {query : Query} {caches : Caches}
    (sound : caches.Sound engine.analyzer known)
    (listed : engine.scopeSources query caches ⊆ known) :
    Steady engine.analyzer known (engine.report query).run := by
  unfold report
  unfold scopeSources at listed
  split
  · rename_i directory
    rw [if_pos directory] at listed
    exact walk_steady apart sound listed
  · rename_i file
    rw [if_neg file] at listed
    exact (searchFile_steady apart listed).bindExcept fun _ _ => (yields_pure _).steady

/-- The look-ups of a call list the sources of the file that is loaded. -/
theorem inlineSources_subset {arguments : Json} {argument path name : String}
    (given : Arguments.text arguments "file_path" = .ok path)
    (wanted : Arguments.text arguments argument = .ok name)
    (listed : engine.lookupSources arguments argument ⊆ known) (unit : SourceUnit)
    (loaded : engine.load path none = .ok unit) : engine.inlineSources unit ⊆ known := by
  simpa only [lookupSources, given, wanted, loaded] using listed

/-- Every tool is steady. -/
theorem call_steady (apart : Source.Apart known) {caches : Caches}
    (sound : caches.Sound engine.analyzer known) (arguments : Json) (tool : Tool)
    (listed : engine.callSources arguments caches tool ⊆ known) :
    Steady engine.analyzer known (engine.call arguments tool).run := by
  cases tool with
  | symbols =>
    apply Calling.bind_steady
    intro path given
    apply Calling.bind_steady
    intro unit loaded
    simp only [callSources, listingSources, given, loaded] at listed
    exact (Calling.ofAnalysis_steady (Analyzer.symbols_yields apart listed).steady).bindExcept
      fun _ _ => (yields_pure _).steady
  | function =>
    apply Calling.bind_steady
    intro path given
    apply Calling.bind_steady
    intro name wanted
    apply lookup_bind_steady apart (inlineSources_subset given wanted listed)
    exact fun _ _ _ => (yields_pure _).steady
  | «class» =>
    apply Calling.bind_steady
    intro path given
    apply Calling.bind_steady
    intro name wanted
    have inline := inlineSources_subset given wanted listed
    apply lookup_bind_steady apart inline
    -- The methods of the class are looked up in the same text once more.
    intro unit _ loaded
    exact (Calling.ofAnalysis_steady (lookup_steady apart _ (inline unit loaded))).bindExcept
      fun _ _ => (yields_pure _).steady
  | signature =>
    apply Calling.bind_steady
    intro path given
    apply Calling.bind_steady
    intro name wanted
    apply lookup_bind_steady apart (inlineSources_subset given wanted listed)
    exact fun _ _ _ => (yields_pure _).steady
  | lines =>
    apply Calling.bind_steady
    intro path given
    apply Calling.bind_steady
    intro first _
    apply Calling.bind_steady
    intro last _
    apply Calling.bind_steady
    intro text _
    apply Calling.bind_steady
    exact fun _ _ => (yields_pure _).steady
  | search =>
    apply Calling.bind_steady
    intro query asked
    simp only [callSources, querySources, asked] at listed
    exact (Calling.ofAnalysis_steady (report_steady apart sound listed)).bindExcept
      fun _ _ => (yields_pure _).steady

end Engine

/-! ## Lines -/

namespace Session

/-- The sources hashed by a tool call, from given caches. -/
def paramsSources (engine : Engine) (params : Json) (caches : Caches) : List Source :=
  match ToolCall.ofParams params with
  | .error _ => []
  | .ok call =>
    match Tool.ofName? call.name with
    | none => []
    | some tool => engine.callSources call.arguments caches tool

/-- The sources hashed when a line is answered, from given caches. -/
def lineSources (engine : Engine) (line : String) (caches : Caches) : List Source :=
  match Incoming.ofLine? line with
  | some (.request request) =>
    if Method.ofName request.method = .callTool then paramsSources engine request.params caches
    else []
  | _ => []

/-- Answering a tool call is steady. -/
theorem answerCall_steady (apart : Source.Apart known) {caches : Caches}
    (sound : caches.Sound engine.analyzer known) {params : Json}
    (listed : paramsSources engine params caches ⊆ known) :
    Steady engine.analyzer known (answerCall engine params) := by
  unfold answerCall
  unfold paramsSources at listed
  cases read : ToolCall.ofParams params with
  | error error => exact (yields_pure _).steady
  | ok call =>
    simp only [read] at listed ⊢
    cases found : Tool.ofName? call.name with
    | none => exact (yields_pure _).steady
    | some tool =>
      simp only [found] at listed ⊢
      exact (engine.call_steady apart sound call.arguments tool listed).bind
        fun _ _ => (yields_pure _).steady

/-- Answering a line is steady. -/
theorem respond_steady (apart : Source.Apart known) {caches : Caches}
    (sound : caches.Sound engine.analyzer known) {line : String}
    (listed : lineSources engine line caches ⊆ known) :
    Steady engine.analyzer known (respond engine line) := by
  unfold respond
  unfold lineSources at listed
  cases received : Incoming.ofLine? line with
  | none => exact (yields_pure _).steady
  | some incoming =>
    cases incoming with
    | unreadable => exact (yields_pure _).steady
    | request request =>
      simp only [received] at listed ⊢
      refine Steady.bind ?_ fun _ _ => (yields_pure _).steady
      unfold answer
      cases method : Method.ofName request.method with
      | callTool =>
        rw [if_pos method] at listed
        exact (answerCall_steady apart sound listed).bind fun _ _ => (yields_pure _).steady
      | _ => exact (yields_pure _).steady

end Session

end CodeAtlas
