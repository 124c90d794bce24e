import CodeAtlas.Server.Outcome
import CodeAtlas.Server.Tool

/-!
# Tool calls

A call reads its arguments, which may be any JSON value, and works with the engine. An
argument that is no value of its type counts as left out. Arguments are read in a fixed
order, and all of them before any file.
-/

namespace CodeAtlas

/-- The work of a call: it uses the caches and may fail. -/
abbrev Calling := ExceptT ToolFailure (StateM Caches)

/-- Fails with the failure that stands for an error of the engine. -/
def Calling.ofExcept {ε α : Type} (failure : ε → ToolFailure) (result : Except ε α) : Calling α :=
  ExceptT.mk (pure (result.mapError failure))

/-- Does work of the engine. -/
def Calling.ofAnalysis {α : Type} (work : Analysis α) : Calling α :=
  ExceptT.mk do return (← ExceptT.run work).mapError .engine

namespace Arguments

/-- A text that may not be left out. -/
def text (arguments : Json) (name : String) : Except ToolFailure String :=
  match (arguments.field? name).bind Json.asString? with
  | some text => .ok text
  | none => .error (.missingArgument name)

/-- A whole number from zero on that may not be left out. -/
def count (arguments : Json) (name : String) : Except ToolFailure Nat :=
  match (arguments.field? name).bind Json.asNat? with
  | some n => .ok n
  | none => .error (.missingArgument name)

/-- A text that may be left out. -/
def text? (arguments : Json) (name : String) : Option String :=
  (arguments.field? name).bind Json.asString?

/-- A whole number from zero on that may be left out. -/
def count? (arguments : Json) (name : String) : Option Nat :=
  (arguments.field? name).bind Json.asNat?

/-- A truth value that may be left out. -/
def flag? (arguments : Json) (name : String) : Option Bool :=
  (arguments.field? name).bind Json.asBool?

/-- The texts in a list; what else stands there is passed over. -/
def texts (arguments : Json) (name : String) : List String :=
  (((arguments.field? name).bind Json.asArray?).getD []).filterMap Json.asString?

/-- The query that the arguments of a search ask for. -/
def query (config : Config) (arguments : Json) : Except ToolFailure Query := do
  let kindName ← text arguments "search_type"
  let kind ← (SearchKind.ofName kindName).mapError .unknownSearchKind
  let target ← text arguments "target"
  let scope ← text arguments "scope"
  return {
    kind, target, scope
    language := text? arguments "language"
    revision := text? arguments "git_revision"
    includes := texts arguments "file_patterns"
    excludes := texts arguments "exclude_patterns"
    maxResults := (count? arguments "max_results").getD config.maxResults
    contextLines := (count? arguments "context_lines").getD config.contextLines
    includeContext := (flag? arguments "include_context").getD true }

end Arguments

namespace Engine

/-- Loads a source file for a call. -/
def loadFor (engine : Engine) (path : String) : Calling SourceUnit :=
  Calling.ofExcept (ToolFailure.loading path) (engine.load path none)

/-- The first function or method of a file with a name. -/
def requireFunction (engine : Engine) (path name : String) : Calling (SourceUnit × Symbol) := do
  let unit ← engine.loadFor path
  match ← Calling.ofAnalysis (engine.extractFunction unit name) with
  | some found => return (unit, found)
  | none => throw (.noFunction name path)

/-- The first class of a file with a name. -/
def requireClass (engine : Engine) (path name : String) : Calling (SourceUnit × Symbol) := do
  let unit ← engine.loadFor path
  match ← Calling.ofAnalysis (engine.extractClass unit name) with
  | some found => return (unit, found)
  | none => throw (.noClass name path)

/-- Searches the scope of a query. The report on one file counts it as searched. -/
def report (engine : Engine) (query : Query) : Analysis Report := do
  if engine.files.isDirectory query.scope then engine.walk query.scope query
  else return { results := ← engine.searchFile query.scope query, filesSearched := 1 }

/-- Calls a tool. -/
def call (engine : Engine) (arguments : Json) : Tool → Calling ToolAnswer
  | .symbols => do
    let path ← Calling.ofExcept id (Arguments.text arguments "file_path")
    let unit ← engine.loadFor path
    return .symbols (← Calling.ofAnalysis (engine.analyzer.symbols path unit))
  | .function => do
    let path ← Calling.ofExcept id (Arguments.text arguments "file_path")
    let name ← Calling.ofExcept id (Arguments.text arguments "function_name")
    let (unit, found) ← engine.requireFunction path name
    return .function unit found
  | .class => do
    let path ← Calling.ofExcept id (Arguments.text arguments "file_path")
    let name ← Calling.ofExcept id (Arguments.text arguments "class_name")
    let (unit, found) ← engine.requireClass path name
    return .class unit found (← Calling.ofAnalysis (engine.methodsOf unit name))
  | .signature => do
    let path ← Calling.ofExcept id (Arguments.text arguments "file_path")
    let name ← Calling.ofExcept id (Arguments.text arguments "function_name")
    let (_, found) ← engine.requireFunction path name
    return .signature found
  | .lines => do
    let path ← Calling.ofExcept id (Arguments.text arguments "file_path")
    let first ← Calling.ofExcept id (Arguments.count arguments "start_line")
    let last ← Calling.ofExcept id (Arguments.count arguments "end_line")
    let text ← Calling.ofExcept (ToolFailure.reading path) (engine.readText path none)
    let (code, last) ← Calling.ofExcept .badRange (lineRange text first last)
    return .lines code first last
  | .search => do
    let query ← Calling.ofExcept id (Arguments.query engine.config arguments)
    return .search (← Calling.ofAnalysis (engine.report query))

end Engine

end CodeAtlas
