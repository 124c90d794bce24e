import CodeAtlas.Config
import CodeAtlas.Language
import CodeAtlas.Symbol

/-!
# Queries and their answers

A query says what to look for and where; a match is one place that answers it. The
outcome of a file is data: a file that was not searched says why.
-/

namespace CodeAtlas

/-- What a query looks for. -/
inductive SearchKind where
  | functionCalls
  | symbolDefinitions
  deriving DecidableEq, Repr

namespace SearchKind

/-- The name of a search kind. -/
def name : SearchKind → String
  | .functionCalls => "function-calls"
  | .symbolDefinitions => "symbol-definitions"

/-- The words for a name that is no search kind. -/
def unknownMessage (name : String) : String :=
  "Unknown search type '" ++ name ++ "', expected function-calls or symbol-definitions"

/-- The search kind a name stands for, or the words for an unknown one. White space
around the name does not matter, and underscores count as dashes. -/
def ofName (text : String) : Except String SearchKind :=
  let key := Text.replaceChar '_' '-' (Text.trim text)
  if key = "function-calls" ∨ key = "calls" then .ok .functionCalls
  else if key = "symbol-definitions" ∨ key = "definitions" then .ok .symbolDefinitions
  else .error (unknownMessage key)

end SearchKind

/-- A search request. -/
structure Query where
  kind : SearchKind
  /-- The text that a call or a symbol name has to contain. -/
  target : String
  /-- The file or directory to search. -/
  scope : String
  /-- The language to assume instead of the one the file extension shows. -/
  language : Option String := none
  /-- The revision to read instead of the working files. -/
  revision : Option String := none
  /-- Globs of which a file has to match one, when there are any. -/
  includes : List String := []
  /-- Globs of which a file must match none. -/
  excludes : List String := []
  maxResults : Nat := ({} : Config).maxResults
  contextLines : Nat := ({} : Config).contextLines
  includeContext : Bool := false
  deriving DecidableEq, Repr

namespace Query

/-- Takes the cap and the context width from a configuration. -/
def configured (query : Query) (config : Config) : Query :=
  { query with maxResults := config.maxResults, contextLines := config.contextLines }

/-- Asks for a number of lines around each match. -/
def withContext (query : Query) (lines : Nat) : Query :=
  { query with includeContext := true, contextLines := lines }

end Query

/-- What a match of a definition search says about its symbol. -/
structure Definition where
  kind : SymbolKind
  name : String
  parent : Option String
  deriving DecidableEq, Repr

/-- One place that answers a query. -/
structure Match where
  filePath : String
  /-- The first line, counted from one. -/
  startLine : Nat
  /-- The last line, counted from one. -/
  endLine : Nat
  text : String
  contextBefore : List String
  contextAfter : List String
  searchKind : SearchKind
  target : String
  /-- The symbol found, in a definition search. -/
  definition : Option Definition
  language : Language
  deriving DecidableEq, Repr

/-- The labelled details of a match, in the order of their labels. -/
def Match.details (found : Match) : List (String × String) :=
  let parent := (found.definition.bind Definition.parent).map fun name => ("parent", name)
  let symbol := found.definition.map fun definition =>
    [("symbol_name", definition.name), ("symbol_type", definition.kind.name)]
  parent.toList ++ [("search_type", found.searchKind.name)] ++ symbol.getD []
    ++ [("target", found.target)]

/-- Why a file was not searched. -/
inductive SkipReason where
  | unsupported
  | binary
  | empty
  deriving DecidableEq, Repr

/-- The name of a skip reason. -/
def SkipReason.name : SkipReason → String
  | .unsupported => "unsupported"
  | .binary => "binary"
  | .empty => "empty"

/-- What became of one file. -/
inductive FileOutcome where
  | searched (found : List Match)
  | skipped (reason : SkipReason)
  | failed (reason : String)
  deriving DecidableEq, Repr

/-- The matches of a file; none unless it was searched. -/
def FileOutcome.results : FileOutcome → List Match
  | .searched found => found
  | .skipped _ => []
  | .failed _ => []

/-- A file that could not be searched. -/
structure FileFailure where
  path : String
  reason : String
  deriving DecidableEq, Repr

/-- Everything a directory search found. -/
structure Report where
  results : List Match := []
  filesSearched : Nat := 0
  filesSkipped : Nat := 0
  failures : List FileFailure := []
  /-- Whether the cap was reached before every candidate was visited. -/
  truncated : Bool := false
  deriving DecidableEq, Repr

end CodeAtlas
