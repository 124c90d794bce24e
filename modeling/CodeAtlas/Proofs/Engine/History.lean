import CodeAtlas.Proofs.Engine.Steady

/-!
# Histories of an engine

One engine serves any number of operations, and between two of them files may change in
any way. What it remembers is never seen: every operation is answered as by a new engine
that finds the same files. The caches are an argument of the history, so the statement is
about whatever has been parsed, evicted or cleared before.
-/

namespace CodeAtlas

/-- What may be asked of an engine. -/
inductive Operation where
  | search (query : Query)
  | searchFile (path : String) (query : Query)
  | searchDirectory (root : String) (query : Query)
  | walk (root : String) (query : Query)
  | fileOutcome (path : String) (query : Query) (cap : Nat)
  | searchSource (identity : String) (unit : SourceUnit) (query : Query)
  | symbols (identity : String) (unit : SourceUnit)
  | extractSymbols (unit : SourceUnit)
  | extractFunction (unit : SourceUnit) (name : String)
  | extractClass (unit : SourceUnit) (name : String)
  | methodsOf (unit : SourceUnit) (name : String)
  | load (path : String) (revision : Option String)
  | readText (path : String) (revision : Option String)
  | clearCaches

/-- What an operation that succeeds returns. -/
inductive Reply where
  | results (found : List Match)
  | report (report : Report)
  | outcome (outcome : FileOutcome)
  | symbols (listed : List Symbol)
  | symbol (found : Option Symbol)
  | unit (unit : SourceUnit)
  | text (text : String)
  | cleared
  deriving DecidableEq, Repr

namespace Operation

/-- Does what an operation asks. -/
def perform (engine : Engine) : Operation → Analysis Reply
  | .search query => .results <$> engine.search query
  | .searchFile path query => .results <$> engine.searchFile path query
  | .searchDirectory root query => .results <$> engine.searchDirectory root query
  | .walk root query => .report <$> engine.walk root query
  | .fileOutcome path query cap => .outcome <$> engine.fileOutcome path query cap
  | .searchSource identity unit query => .results <$> engine.searchSource identity unit query
  | .symbols identity unit => .symbols <$> engine.analyzer.symbols identity unit
  | .extractSymbols unit => .symbols <$> engine.extractSymbols unit
  | .extractFunction unit name => .symbol <$> engine.extractFunction unit name
  | .extractClass unit name => .symbol <$> engine.extractClass unit name
  | .methodsOf unit name => .symbols <$> engine.methodsOf unit name
  | .load path revision => ExceptT.mk (pure (.unit <$> engine.load path revision))
  | .readText path revision => ExceptT.mk (pure (.text <$> engine.readText path revision))
  | .clearCaches => (fun _ => .cleared) <$> Engine.clearCaches

/-- The sources that an operation hashes, from given caches. -/
def sources (engine : Engine) (caches : Caches) : Operation → List Source
  | .search query => engine.scopeSources query caches
  | .searchFile path query => engine.fileSources path query query.maxResults
  | .searchDirectory root query => engine.walkSources root query caches
  | .walk root query => engine.walkSources root query caches
  | .fileOutcome path query cap => engine.fileSources path query cap
  | .searchSource identity unit query => engine.memorySources identity unit query
  | .symbols identity unit => engine.analyzer.parsedSources identity unit
  | .extractSymbols unit => engine.inlineSources unit
  | .extractFunction unit _ => engine.inlineSources unit
  | .extractClass unit _ => engine.inlineSources unit
  | .methodsOf unit _ => engine.inlineSources unit
  | .load _ _ => []
  | .readText _ _ => []
  | .clearCaches => []

/-- Every operation is steady. -/
theorem perform_steady {engine : Engine} {known : List Source} (apart : Source.Apart known)
    {caches : Caches} (sound : caches.Sound engine.analyzer known) (operation : Operation)
    (listed : operation.sources engine caches ⊆ known) :
    Caches.Steady engine.analyzer known (operation.perform engine).run := by
  cases operation with
  | search query => exact (Engine.search_steady apart sound listed).map _
  | searchFile path query => exact (Engine.searchFile_steady apart listed).map _
  | searchDirectory root query => exact (Engine.searchDirectory_steady apart sound listed).map _
  | walk root query => exact (Engine.walk_steady apart sound listed).map _
  | fileOutcome path query cap => exact (Engine.fileOutcome_steady apart listed).map _
  | searchSource identity unit query => exact (Engine.searchSource_steady apart listed).map _
  | symbols identity unit => exact (Analyzer.symbols_yields apart listed).steady.map _
  | extractSymbols unit => exact (Engine.extractSymbols_steady apart listed).map _
  | extractFunction unit name => exact (Engine.lookup_steady apart _ listed).map _
  | extractClass unit name => exact (Engine.lookup_steady apart _ listed).map _
  | methodsOf unit name => exact (Engine.lookup_steady apart _ listed).map _
  | load path revision => exact (Caches.yields_ofExcept _).steady
  | readText path revision => exact (Caches.yields_ofExcept _).steady
  | clearCaches =>
    exact ⟨.ok .cleared, fun caches _ => ⟨rfl, Caches.clear_sound _ _ caches⟩⟩

end Operation

/-- An operation, and the files and contents that it finds. -/
structure Step where
  files : FileSystem
  source : ContentSource
  operation : Operation

namespace History

variable (config : Config) (analyzer : Analyzer)

/-- The engine that serves a step. -/
def engineAt (step : Step) : Engine := ⟨config, analyzer, step.files, step.source⟩

/-- The answer to a step. -/
def answer (step : Step) : StateM Caches (Except SearchError Reply) :=
  (step.operation.perform (engineAt config analyzer step)).run

/-- The answers to the steps of a history, in order. -/
def answers (steps : List Step) : StateM Caches (List (Except SearchError Reply)) :=
  Caches.serve (answer config analyzer) steps

/-- The sources hashed in a history that starts from given caches. -/
def hashed (steps : List Step) (caches : Caches) : List Source :=
  Caches.hashed (answer config analyzer)
    (fun step caches => step.operation.sources (engineAt config analyzer step) caches) steps caches

/-- The caches of an engine that has served nothing. -/
def start : Caches := .fresh config.treeCacheSize

/-- Every operation of a history is answered as by a new engine, for every capacity of
the tree cache and whatever happens to the files between the operations, provided that
SHA-256 does not collide on what the history hashes and that no identity holds a zero
character. In the end every remembered tree is still the tree of the source it is
remembered for. -/
theorem answers_eq_fresh (config : Config) (analyzer : Analyzer) (steps : List Step)
    (separated : Sha256.Separates
      ((hashed config analyzer steps (start config)).map Source.message))
    (plain : ∀ source ∈ hashed config analyzer steps (start config), source.Plain) :
    ((answers config analyzer steps).run (start config)).1 =
        steps.map (fun step => ((answer config analyzer step).run (start config)).1) ∧
      ((answers config analyzer steps).run (start config)).2.Sound analyzer
        (hashed config analyzer steps (start config)) := by
  have apart := Source.apart_of_separates separated plain
  have fresh := Caches.fresh_sound analyzer (hashed config analyzer steps (start config))
    config.treeCacheSize
  have steady (step : Step) (caches : Caches)
      (sound : caches.Sound analyzer (hashed config analyzer steps (start config)))
      (listed : step.operation.sources (engineAt config analyzer step) caches ⊆
        hashed config analyzer steps (start config)) :
      Caches.Steady analyzer (hashed config analyzer steps (start config))
        (answer config analyzer step) :=
    Operation.perform_steady apart sound step.operation listed
  exact Caches.serve_run steady fresh fresh steps (List.Subset.refl _)

/-- The tree of a four-byte Python text that calls a function with a one-letter name. -/
def callTree : Node :=
  .mk "module" true "" 0 4
    [.mk "expression_statement" true "" 0 3
      [.mk "call" true "" 0 3
        [.mk "identifier" true "function" 0 1 [],
         .mk "argument_list" true "arguments" 1 3
          [.mk "(" false "" 1 2 [], .mk ")" false "" 2 3 []]]]]

/-- An analyzer for texts of that one shape. -/
def callAnalyzer : Analyzer where
  parser := { tree? := fun _ _ => some callTree, knowsKind := fun _ _ => true }

/-- A search for the calls of `f` in a file that holds a text at the time. -/
def searchHolding (text : String) : Step where
  files := {}
  source _ _ := .ok text.toUTF8
  operation := .searchFile "a.py" { kind := .functionCalls, target := "f", scope := "a.py" }

/-- A history in which a file is edited and restored, with room for one tree. -/
theorem answers_eq_fresh_edited :
    let config : Config := { treeCacheSize := 1 }
    let steps := [searchHolding "f()\n", searchHolding "g()\n", searchHolding "f()\n"]
    Sha256.Separates ((hashed config callAnalyzer steps (start config)).map Source.message) ∧
      (∀ source ∈ hashed config callAnalyzer steps (start config), source.Plain) ∧
      ((answers config callAnalyzer steps).run (start config)).1 =
        steps.map (fun step => ((answer config callAnalyzer step).run (start config)).1) := by
  intro config steps
  have separated : Sha256.Separates
      ((hashed config callAnalyzer steps (start config)).map Source.message) := by
    decide +kernel
  have plain : ∀ source ∈ hashed config callAnalyzer steps (start config), source.Plain := by
    decide +kernel
  exact ⟨separated, plain, (answers_eq_fresh config callAnalyzer steps separated plain).1⟩

end History

end CodeAtlas
