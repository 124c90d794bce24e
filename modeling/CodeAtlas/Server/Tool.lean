import CodeAtlas.Json.Value

/-!
# Tools

The tools that a client may call, and what the catalogue says about each: its name, a
description, and the arguments it takes with those that may not be left out.
-/

namespace CodeAtlas

/-- What a client may ask for. -/
inductive Tool where
  | symbols
  | function
  | «class»
  | signature
  | lines
  | search
  deriving DecidableEq, Repr

namespace Tool

/-- Every tool, in catalogue order. -/
def all : List Tool := [.symbols, .function, .class, .signature, .lines, .search]

/-- The name that a tool has in the catalogue. -/
def name : Tool → String
  | .symbols => "get_symbols"
  | .function => "get_function"
  | .class => "get_class"
  | .signature => "get_signature"
  | .lines => "get_lines"
  | .search => "search_code"

/-- The tool that is called by exactly this name. The names are kept apart from those in
the catalogue. -/
def ofName? : String → Option Tool
  | "get_symbols" => some .symbols
  | "get_function" => some .function
  | "get_class" => some .class
  | "get_signature" => some .signature
  | "get_lines" => some .lines
  | "search_code" => some .search
  | _ => none

/-- What a tool does, in the words of the catalogue. -/
def description : Tool → String
  | .symbols =>
    "List every function, method, class, variable and type declared in a file, with "
      ++ "line ranges and parents."
  | .function =>
    "Get the full source of a function or method, its lines, parameters, return type "
      ++ "and docstring."
  | .class =>
    "Get the full source of a class, struct or interface together with its methods."
  | .signature =>
    "Get only the declaration line of a function or method, without its body."
  | .lines =>
    "Get a 1-based inclusive range of lines from a file. The end is clipped to the file length."
  | .search =>
    "Structural search over a file or a directory using syntax trees.\n\n"
      ++ "- `function-calls`: call sites whose text contains `target` (e.g. \"requests.get\").\n"
      ++ "- `symbol-definitions`: declarations whose name contains `target`.\n\n"
      ++ "Directory scopes are walked in path order and the result cap applies to the whole scope."

/-- An argument of a tool. -/
structure Argument where
  name : String
  /-- What the catalogue says about the values it takes. -/
  about : List (String × Json)
  required : Bool := true

namespace Argument

/-- What the catalogue says about values of a type. -/
def typed (type description : String) : List (String × Json) :=
  [("type", .string type), ("description", .string description)]

/-- An argument of a type that may not be left out. -/
def mandatory (name type description : String) : Argument := ⟨name, typed type description, true⟩

/-- An argument of a type that may be left out. -/
def extra (name type description : String) : Argument := ⟨name, typed type description, false⟩

/-- An argument that is a list of texts and may be left out. -/
def extraList (name description : String) : Argument :=
  ⟨name, typed "array" description ++ [("items", .ofFields [("type", .string "string")])], false⟩

end Argument

/-- The source file that most tools work on. -/
def sourceFile : Argument := .mandatory "file_path" "string" "Path to the source file"

/-- The function that two of the tools work on. -/
def functionName : Argument :=
  .mandatory "function_name" "string" "Exact name of the function or method"

/-- The arguments of a tool. -/
def arguments : Tool → List Argument
  | .symbols => [sourceFile]
  | .function => [sourceFile, functionName]
  | .class => [sourceFile, .mandatory "class_name" "string" "Exact name of the class"]
  | .signature => [sourceFile, functionName]
  | .lines =>
    [.mandatory "file_path" "string" "Path to the file",
     .mandatory "start_line" "number" "First line, starting at 1",
     .mandatory "end_line" "number" "Last line, inclusive"]
  | .search =>
    [⟨"search_type", [("type", .string "string"),
        ("enum", .strings ["function-calls", "symbol-definitions"])], true⟩,
     .mandatory "target" "string" "Substring to look for",
     .mandatory "scope" "string" "File or directory to search",
     .extra "language" "string"
       ("Override language detection (python, javascript, typescript, tsx, rust, go, java, "
         ++ "cpp, c_sharp)"),
     .extra "git_revision" "string" "Search file contents at this git revision",
     .extraList "file_patterns" "Include globs for directory scopes",
     .extraList "exclude_patterns" "Exclude globs for directory scopes",
     .extra "max_results" "number" "Maximum number of results across the whole scope",
     .extra "context_lines" "number" "Lines of context before and after each match",
     ⟨"include_context", [("type", .string "boolean"), ("default", .bool true)], false⟩]

/-- The catalogue entry for the arguments of a tool. -/
def inputSchema (tool : Tool) : Json :=
  .ofFields
    [("type", .string "object"),
     ("properties", .ofFields (tool.arguments.map fun argument =>
       (argument.name, .ofFields argument.about))),
     ("required", .strings ((tool.arguments.filter Argument.required).map Argument.name))]

/-- The catalogue entry of a tool. -/
def entry (tool : Tool) : Json :=
  .ofFields
    [("name", .string tool.name), ("description", .string tool.description),
     ("inputSchema", tool.inputSchema)]

/-- The catalogue. -/
def catalogue : Json := .ofFields [("tools", .array (all.map entry))]

end Tool

end CodeAtlas
