import CodeAtlas.Analyzer
import CodeAtlas.Content
import CodeAtlas.Context

/-!
# The search engine

An engine searches files and texts for calls and definitions. What it works on (the
configuration, the parser, the files and where content comes from) is fixed; what it
remembers is in the caches that its operations carry. An error that concerns one file
becomes that file's outcome, so that only a bad pattern or a bad glob ends a search.
-/

namespace CodeAtlas

/-- What a search works on. -/
structure Engine where
  config : Config
  analyzer : Analyzer
  /-- The files that scopes and directory listings refer to. -/
  files : FileSystem
  /-- Where the content of files comes from. -/
  source : ContentSource

/-- A match before the file it stands in is known. -/
structure Hit where
  startLine : Nat
  endLine : Nat
  text : String
  definition : Option Definition := none
  deriving DecidableEq, Repr

/-- Turns an error that concerns one file into that file's outcome. -/
def contain (error : SearchError) : Except SearchError FileOutcome :=
  if error.isPerFile then .ok (.failed error.message) else .error error

/-- The hit of a call node. -/
def callHit (text : String) (node : Node) : Hit where
  startLine := node.startRow text + 1
  endLine := node.stopRow text + 1
  text := node.text text

/-- The hit of a symbol. -/
def definitionHit (symbol : Symbol) : Hit where
  startLine := symbol.startLine
  endLine := symbol.endLine
  text := symbol.signature
  definition := some ⟨symbol.kind, symbol.name, symbol.parent⟩

/-- The match of a hit in a text, with the lines around it when the query asks for
them. -/
def Hit.toMatch (hit : Hit) (identity : String) (unit : SourceUnit) (query : Query) : Match :=
  let window :=
    if query.includeContext then
      contextWindow (Text.lines unit.text) hit.startLine hit.endLine query.contextLines
    else ([], [])
  { filePath := identity
    startLine := hit.startLine
    endLine := hit.endLine
    text := hit.text
    contextBefore := window.1
    contextAfter := window.2
    searchKind := query.kind
    target := query.target
    definition := hit.definition
    language := unit.language }

namespace Engine

/-- The name under which texts without a file are remembered. -/
def inlineIdentity : String := "<inline>"

/-- The caches of a new engine. -/
def freshCaches (engine : Engine) : Caches := .fresh engine.config.treeCacheSize

/-- The language of a file: the one the query names, else the one its extension shows. -/
def resolveLanguage? (engine : Engine) (path : String) (query : Query) : Option Language :=
  match query.language with
  | some name => (Language.ofName name).toOption.filter engine.analyzer.registry.supports
  | none => engine.analyzer.registry.detect? path

/-- Goes through the nodes of a text in document order and adds, to the hits found before,
those of the calls whose text contains the target. The hit that reaches the cap is the last. -/
def scanCalls (isCall : Node → Bool) (text target : String) (cap : Nat) :
    List Hit → List Node → List Hit
  | hits, [] => hits
  | hits, node :: nodes =>
    if !isCall node then scanCalls isCall text target cap hits nodes
    else if !Text.contains target (node.text text) then
      scanCalls isCall text target cap hits nodes
    else
      let hits := hits ++ [callHit text node]
      if cap ≤ hits.length then hits else scanCalls isCall text target cap hits nodes

/-- The calls in a tree whose text contains the target, in document order. -/
def findCalls (engine : Engine) (parsed : ParsedTree) (unit : SourceUnit) (query : Query)
    (cap : Nat) : Analysis (List Hit) := do
  match ← engine.analyzer.compileFor unit.language .functionCalls with
  | none => return []
  | some pattern =>
    if (pattern.index? "call").isNone then
      throw (.invalidPattern unit.language.id "pattern has no @call capture")
    return scanCalls (pattern.captures? "call") unit.text query.target cap [] parsed.tree.preorder

/-- The symbols of a tree whose name contains the target, in listing order. -/
def findDefinitions (engine : Engine) (parsed : ParsedTree) (unit : SourceUnit) (query : Query)
    (cap : Nat) : Except SearchError (List Hit) := do
  let symbols ← engine.analyzer.outline parsed unit
  let found := symbols.filter fun symbol => Text.contains query.target symbol.name
  return (found.take cap).map definitionHit

/-- Searches a text, giving at most `cap` matches; a cap of zero parses nothing. -/
def searchUnit (engine : Engine) (identity : String) (unit : SourceUnit) (query : Query)
    (cap : Nat) : Analysis (List Match) := do
  if cap = 0 then return []
  let parsed ← engine.analyzer.parse identity unit
  let hits ← match query.kind with
    | .functionCalls => engine.findCalls parsed unit query cap
    | .symbolDefinitions => ExceptT.mk (pure (engine.findDefinitions parsed unit query cap))
  return hits.map fun hit => hit.toMatch identity unit query

/-- Searches a text that is already in memory. -/
def searchSource (engine : Engine) (identity : String) (unit : SourceUnit) (query : Query) :
    Analysis (List Match) := do
  if Text.isBlank unit.text then return []
  try engine.searchUnit identity unit query query.maxResults
  catch error => if error.isPerFile then pure [] else throw error

/-- Searches one file, giving at most `cap` matches. -/
def fileOutcome (engine : Engine) (path : String) (query : Query) (cap : Nat) :
    Analysis FileOutcome := do
  match engine.resolveLanguage? path query with
  | none => return .skipped .unsupported
  | some language =>
    match engine.source path query.revision with
    | .error error => ExceptT.mk (pure (contain error))
    | .ok content =>
      if content.isEmpty then return .skipped .empty
      match decodeText path content with
      | .error (.binary _) => return .skipped .binary
      | .error error => ExceptT.mk (pure (contain error))
      | .ok text =>
        if Text.isBlank text then return .skipped .empty
        try pure (.searched (← engine.searchUnit path ⟨language, text⟩ query cap))
        catch error => ExceptT.mk (pure (contain error))

/-- The matches of one file; a file that cannot be searched has none. -/
def searchFile (engine : Engine) (path : String) (query : Query) : Analysis (List Match) := do
  return (← engine.fileOutcome path query query.maxResults).results

/-- The text of a file. -/
def readText (engine : Engine) (path : String) (revision : Option String) :
    Except SearchError String := do
  decodeText path (← engine.source path revision)

/-- The text of a file, with the language its extension shows. -/
def load (engine : Engine) (path : String) (revision : Option String) :
    Except SearchError SourceUnit := do
  match engine.analyzer.registry.detect? path with
  | none => throw (.unsupportedLanguage path)
  | some language => return ⟨language, ← engine.readText path revision⟩

/-- The symbols of a text without a file. -/
def extractSymbols (engine : Engine) (unit : SourceUnit) : Analysis (List Symbol) :=
  engine.analyzer.symbols inlineIdentity unit

/-- The first function or method with exactly this name. -/
def extractFunction (engine : Engine) (unit : SourceUnit) (name : String) :
    Analysis (Option Symbol) := do
  return (← engine.extractSymbols unit).find? fun symbol =>
    symbol.kind.isCallable && symbol.name = name

/-- The first class, struct, interface or enumeration with exactly this name. -/
def extractClass (engine : Engine) (unit : SourceUnit) (name : String) :
    Analysis (Option Symbol) := do
  return (← engine.extractSymbols unit).find? fun symbol =>
    symbol.kind.isClassLike && symbol.name = name

/-- The methods whose parent has this name. -/
def methodsOf (engine : Engine) (unit : SourceUnit) (name : String) : Analysis (List Symbol) := do
  return (← engine.extractSymbols unit).filter fun symbol =>
    symbol.kind = .method && symbol.parent = some name

/-- Forgets every tree and pattern. -/
def clearCaches : Analysis Unit := modify Caches.clear

end Engine

end CodeAtlas
