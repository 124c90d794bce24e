import CodeAtlas.Outline.Basic
import CodeAtlas.Pattern
import CodeAtlas.TreeCache

/-!
# Analysing source texts

An `Analyzer` knows the languages it may handle and how their texts are parsed. It
works with two caches, one of trees and one of compiled patterns, that live as long as
the analyzer is used. `Analysis` is the monad of that work: it may fail, and the caches
keep what they have learned when it does.
-/

namespace CodeAtlas

/-- The languages an analyzer may handle. -/
structure Registry where
  languages : List Language

namespace Registry

/-- The registry of every language. -/
def builtin : Registry := ⟨Language.all⟩

/-- Whether a language may be handled. -/
def supports (registry : Registry) (language : Language) : Bool :=
  registry.languages.contains language

/-- The supported languages in listing order. -/
def listed (registry : Registry) : List Language :=
  Language.all.filter registry.supports

/-- The language of a file, when it is supported. -/
def detect? (registry : Registry) (path : String) : Option Language :=
  (Language.detect? path).filter registry.supports

/-- A supported language, or the error that names an unsupported one. -/
def require (registry : Registry) (language : Language) : Except SearchError Unit :=
  if registry.supports language then .ok () else .error (.unsupportedLanguage language.id)

end Registry

/-- A source text bound to its language. -/
structure SourceUnit where
  language : Language
  text : String
  deriving DecidableEq, Repr

/-- What turns texts into trees. -/
structure Parser where
  /-- The tree of a text; none when the parser gives up. -/
  tree? : Language → String → Option Node
  /-- Whether the grammar of a language has a kind of node. -/
  knowsKind : Language → String → Bool

/-- A tree, and the language and fingerprint of the text it came from. -/
structure ParsedTree where
  tree : Node
  language : Language
  fingerprint : String

/-- Compiled patterns by language and key of their text. -/
structure PatternCache where
  entries : List ((Language × String) × CompiledPattern) := []

namespace PatternCache

/-- The pattern under a key. -/
def get? (cache : PatternCache) (key : Language × String) : Option CompiledPattern :=
  (cache.entries.find? fun entry => entry.1 = key).map Prod.snd

/-- Adds a pattern under a key. -/
def insert (cache : PatternCache) (key : Language × String) (pattern : CompiledPattern) :
    PatternCache :=
  ⟨cache.entries ++ [(key, pattern)]⟩

/-- The number of patterns. -/
def size (cache : PatternCache) : Nat := cache.entries.length

end PatternCache

/-- What an analyzer remembers. -/
structure Caches where
  trees : TreeCache
  patterns : PatternCache := {}

namespace Caches

/-- The caches of a new analyzer, with room for a number of trees. -/
def fresh (capacity : Nat) : Caches where
  trees := .empty capacity

/-- Forgets every tree and pattern. -/
def clear (caches : Caches) : Caches where
  trees := caches.trees.clear

end Caches

/-- Work that uses the caches and may fail. -/
abbrev Analysis := ExceptT SearchError (StateM Caches)

/-- Runs a piece of work from given caches. -/
def Analysis.runFrom {α : Type} (work : Analysis α) (caches : Caches) :
    Except SearchError α × Caches :=
  StateT.run (ExceptT.run work) caches

/-- What analyses source texts. -/
structure Analyzer where
  registry : Registry := .builtin
  parser : Parser

namespace Analyzer

/-- Parses a text, or takes the tree that the same text from the same place gave. -/
def parse (analyzer : Analyzer) (identity : String) (unit : SourceUnit) : Analysis ParsedTree := do
  ExceptT.mk (pure (analyzer.registry.require unit.language))
  let fingerprint := Fingerprint.key identity unit.language unit.text
  let caches ← get
  match caches.trees.get? fingerprint with
  | some tree => return ⟨tree, unit.language, fingerprint⟩
  | none =>
    match analyzer.parser.tree? unit.language unit.text with
    | none => throw (.parseFailure ("parser gave up on " ++ identity))
    | some tree =>
      set { caches with trees := caches.trees.insert fingerprint tree }
      return ⟨tree, unit.language, fingerprint⟩

/-- Compiles a pattern, or takes the compiled one. -/
def compile (analyzer : Analyzer) (language : Language) (text : String) :
    Analysis CompiledPattern := do
  let key := (language, Pattern.key text)
  let caches ← get
  match caches.patterns.get? key with
  | some pattern => return pattern
  | none =>
    ExceptT.mk (pure (analyzer.registry.require language))
    let pattern ← ExceptT.mk (pure
      (Pattern.compile (analyzer.parser.knowsKind language) language text))
    set { caches with patterns := caches.patterns.insert key pattern }
    return pattern

/-- The fixed pattern of a search kind for a supported language. -/
def patternText (analyzer : Analyzer) (language : Language) (kind : SearchKind) :
    Except SearchError (Option String) := do
  analyzer.registry.require language
  return language.patternText kind

/-- Compiles the fixed pattern of a search kind, where there is one. -/
def compileFor (analyzer : Analyzer) (language : Language) (kind : SearchKind) :
    Analysis (Option CompiledPattern) := do
  match ← ExceptT.mk (pure (analyzer.patternText language kind)) with
  | none => return none
  | some text => return some (← analyzer.compile language text)

/-- The symbols of a text whose tree is known. -/
def outline (analyzer : Analyzer) (parsed : ParsedTree) (unit : SourceUnit) :
    Except SearchError (List Symbol) := do
  analyzer.registry.require unit.language
  return Outline.symbols unit.language.grammar unit.text parsed.tree

/-- The symbols of a text. -/
def symbols (analyzer : Analyzer) (identity : String) (unit : SourceUnit) :
    Analysis (List Symbol) := do
  let parsed ← analyzer.parse identity unit
  ExceptT.mk (pure (analyzer.outline parsed unit))

end Analyzer

end CodeAtlas
