import CodeAtlas.Context
import CodeAtlas.Json.Writer
import CodeAtlas.Walk

/-!
# Outcomes of tool calls

A call of a tool has an answer, which is shown as a JSON text, or fails for a reason
that is said in words. Reasons that come from the engine are followed by what caused
them.
-/

namespace CodeAtlas

/-- Why a call of a tool failed. -/
inductive ToolFailure where
  /-- An argument is not there, or is no value of its type. -/
  | missingArgument (name : String)
  | unknownSearchKind (message : String)
  /-- A source file could not be loaded. -/
  | loading (path : String) (error : SearchError)
  /-- The text of a file could not be read. -/
  | reading (path : String) (error : SearchError)
  | engine (error : SearchError)
  | noFunction (name path : String)
  | noClass (name path : String)
  | badRange (error : LineRangeError)
  deriving DecidableEq, Repr

/-- The words for an error, and after a colon those for its cause. -/
def SearchError.fullMessage (error : SearchError) : String :=
  error.message ++ (error.cause?.map fun cause => ": " ++ cause).getD ""

/-- The words for a failure. -/
def ToolFailure.message : ToolFailure → String
  | .missingArgument name => "Missing '" ++ name ++ "' argument"
  | .unknownSearchKind message => message
  | .loading path error => "Failed to load " ++ path ++ ": " ++ error.fullMessage
  | .reading path error => "Failed to read " ++ path ++ ": " ++ error.fullMessage
  | .engine error => error.fullMessage
  | .noFunction name path => "Function '" ++ name ++ "' not found in " ++ path
  | .noClass name path => "Class '" ++ name ++ "' not found in " ++ path
  | .badRange error => error.message

/-- What a call of a tool found. -/
inductive ToolAnswer where
  | symbols (listed : List Symbol)
  | function (unit : SourceUnit) (found : Symbol)
  | «class» (unit : SourceUnit) (found : Symbol) (methods : List Symbol)
  | signature (found : Symbol)
  | lines (code : String) (first last : Nat)
  | search (report : Report)
  deriving DecidableEq, Repr

/-- The text that a symbol covers; empty when its range does not fit the text. -/
def SourceUnit.codeOf (unit : SourceUnit) (symbol : Symbol) : String :=
  (Text.slice? symbol.startByte symbol.endByte unit.text).getD ""

/-- A symbol as an entry of a listing. -/
def Symbol.summary (symbol : Symbol) : Json :=
  .ofFields
    [("name", .string symbol.name), ("type", .string symbol.kind.name),
     ("lines", .string symbol.lineSpan), ("parent", .optionalString symbol.parent),
     ("signature", .string symbol.signature)]

/-- A method as an entry of its class. -/
def Symbol.methodSummary (symbol : Symbol) : Json :=
  .ofFields
    [("name", .string symbol.name), ("lines", .string symbol.lineSpan),
     ("signature", .string symbol.signature)]

/-- A match with everything known about it. -/
def Match.toJson (found : Match) : Json :=
  .ofFields
    [("file_path", .string found.filePath), ("start_line", .nat found.startLine),
     ("end_line", .nat found.endLine), ("match_text", .string found.text),
     ("context_before", .strings found.contextBefore),
     ("context_after", .strings found.contextAfter),
     ("metadata", .ofFields (found.details.map fun (name, value) => (name, .string value))),
     ("language", .string found.language.id)]

/-- A file that could not be searched, with the reason. -/
def FileFailure.toJson (failure : FileFailure) : Json :=
  .ofFields [("path", .string failure.path), ("reason", .string failure.reason)]

namespace ToolAnswer

/-- An answer as a JSON value. -/
def toJson : ToolAnswer → Json
  | .symbols listed =>
    .ofFields [("count", .nat listed.length), ("symbols", .array (listed.map Symbol.summary))]
  | .function unit found =>
    .ofFields
      [("name", .string found.name), ("type", .string found.kind.name),
       ("code", .string (unit.codeOf found)), ("lines", .string found.lineSpan),
       ("parameters", .strings (found.parameters.map Parameter.render)),
       ("return_type", .optionalString found.returnType), ("is_async", .bool found.isAsync),
       ("parent", .optionalString found.parent), ("decorators", .strings found.decorators),
       ("docstring", .optionalString found.docstring)]
  | .class unit found methods =>
    .ofFields
      [("name", .string found.name), ("type", .string found.kind.name),
       ("code", .string (unit.codeOf found)), ("lines", .string found.lineSpan),
       ("docstring", .optionalString found.docstring), ("decorators", .strings found.decorators),
       ("methods", .array (methods.map Symbol.methodSummary))]
  | .signature found =>
    .ofFields
      [("name", .string found.name), ("signature", .string found.signature),
       ("lines", .string found.lineSpan)]
  | .lines code first last =>
    .ofFields
      [("code", .string code), ("start_line", .nat first), ("end_line", .nat last),
       ("lines", .string (toString first ++ "-" ++ toString last))]
  | .search report =>
    .ofFields
      [("total", .nat report.results.length), ("truncated", .bool report.truncated),
       ("files_searched", .nat report.filesSearched),
       ("failures", .array (report.failures.map FileFailure.toJson)),
       ("results", .array (report.results.map Match.toJson))]

/-- Whether an answer has nothing to show: a search without matches and failures. -/
def isEmpty : ToolAnswer → Bool
  | .search report => report.results.isEmpty && report.failures.isEmpty
  | _ => false

/-- The text that shows an answer. -/
def text (answer : ToolAnswer) : String :=
  if answer.isEmpty then "No results found." else answer.toJson.pretty

end ToolAnswer

/-- The content of a response that is one text. -/
def textContent (text : String) : Json :=
  .array [.ofFields [("type", .string "text"), ("text", .string text)]]

/-- The result that a client gets for a call. A failure is marked as an error. -/
def callResult : Except ToolFailure ToolAnswer → Json
  | .ok answer => .ofFields [("content", textContent answer.text)]
  | .error failure =>
    .ofFields
      [("content", textContent ("Error: " ++ failure.message)), ("isError", .bool true)]

end CodeAtlas
