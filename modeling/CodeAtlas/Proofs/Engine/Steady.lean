import CodeAtlas.Proofs.Caches.Steady
import CodeAtlas.Proofs.Engine.Complete

/-!
# Searches do not depend on the caches

For every search of the engine this module lists the sources that it hashes, and shows
that the search is steady once its sources are among the known ones. Only a directory
search decides what to hash next by what it has found, so only its list refers to the
caches it starts from.
-/

namespace CodeAtlas.Engine

open Caches

variable {engine : Engine} {known : List Source}

/-! ## One text, one file -/

/-- The sources hashed when a text is searched; a cap of zero parses nothing. -/
def unitSources (engine : Engine) (identity : String) (unit : SourceUnit) (cap : Nat) :
    List Source :=
  if cap = 0 then [] else engine.analyzer.parsedSources identity unit

/-- Looking for all calls is steady. -/
theorem allCalls_steady (parsed : ParsedTree) (unit : SourceUnit) (query : Query) :
    Steady engine.analyzer known (engine.allCalls parsed unit query).run := by
  unfold allCalls
  apply (Analyzer.compileFor_steady engine.analyzer known unit.language).bindExcept
  intro found _
  cases found with
  | none => exact (yields_pure _).steady
  | some pattern =>
    simp only
    split
    · exact (yields_throw _).bindError.steady
    · exact (yields_pure _).steady

/-- Finding all matches in a text is steady. -/
theorem allMatches_steady (apart : Source.Apart known) {identity : String} {unit : SourceUnit}
    (query : Query) (listed : engine.analyzer.parsedSources identity unit ⊆ known) :
    Steady engine.analyzer known (engine.allMatches identity unit query).run := by
  unfold allMatches
  apply (Analyzer.parse_yields apart listed).steady.bindExcept
  intro parsed _
  cases query.kind with
  | functionCalls =>
    apply (allCalls_steady parsed unit query).bindExcept
    exact fun _ _ => (yields_pure _).steady
  | symbolDefinitions =>
    apply (yields_ofExcept _).steady.bindExcept
    exact fun _ _ => (yields_pure _).steady

/-- Searching a text is steady. -/
theorem searchUnit_steady (apart : Source.Apart known) {identity : String} {unit : SourceUnit}
    (query : Query) {cap : Nat} (listed : engine.unitSources identity unit cap ⊆ known) :
    Steady engine.analyzer known (engine.searchUnit identity unit query cap).run := by
  by_cases spent : cap = 0
  · subst spent
    exact (yields_pure _).steady
  · rw [unitSources, if_neg spent] at listed
    rw [searchUnit_eq engine identity unit query spent]
    exact (allMatches_steady apart query listed).map _

/-- The sources hashed when a text in memory is searched. -/
def memorySources (engine : Engine) (identity : String) (unit : SourceUnit) (query : Query) :
    List Source :=
  if Text.isBlank unit.text then [] else engine.unitSources identity unit query.maxResults

/-- Searching a text in memory is steady. -/
theorem searchSource_steady (apart : Source.Apart known) {identity : String}
    {unit : SourceUnit} {query : Query}
    (listed : engine.memorySources identity unit query ⊆ known) :
    Steady engine.analyzer known (engine.searchSource identity unit query).run := by
  unfold searchSource
  split
  · exact (yields_pure _).steady
  · rename_i content
    rw [memorySources, if_neg content] at listed
    apply (searchUnit_steady apart query listed).tryCatch
    intro error
    split
    · exact (yields_pure _).steady
    · exact (yields_throw _).steady

/-- The sources hashed when a file is searched: its text, unless there is nothing to
search. -/
def fileSources (engine : Engine) (path : String) (query : Query) (cap : Nat) : List Source :=
  match engine.resolveLanguage? path query, engine.readText path query.revision with
  | some language, .ok text =>
    if Text.isBlank text then [] else engine.unitSources path ⟨language, text⟩ cap
  | _, _ => []

/-- Searching a file is steady if searching its text is. -/
theorem outcomeBy_steady {path : String} {query : Query}
    {search : SourceUnit → Analysis (List Match)}
    (steady : ∀ language text, engine.resolveLanguage? path query = some language →
      engine.readText path query.revision = .ok text → ¬Text.isBlank text →
        Steady engine.analyzer known (search ⟨language, text⟩).run) :
    Steady engine.analyzer known (engine.outcomeBy path query search).run := by
  unfold outcomeBy
  cases resolved : engine.resolveLanguage? path query with
  | none => exact (yields_pure _).steady
  | some language =>
    cases read : engine.source path query.revision with
    | error error => exact (yields_ofExcept _).steady
    | ok content =>
      simp only
      split
      · exact (yields_pure _).steady
      · split
        · exact (yields_pure _).steady
        · exact (yields_ofExcept _).steady
        · rename_i text decoded
          have readable : engine.readText path query.revision = .ok text := by
            unfold readText
            rw [read]
            exact decoded
          split
          · exact (yields_pure _).steady
          · rename_i content
            refine Steady.tryCatch ?_ fun error => (yields_ofExcept _).steady
            exact (steady language text resolved readable content).bindExcept fun _ _ =>
              (yields_pure _).steady

/-- The sources of a file are those of its text. -/
theorem fileSources_eq {path : String} {query : Query} {language : Language} {text : String}
    (cap : Nat) (resolved : engine.resolveLanguage? path query = some language)
    (readable : engine.readText path query.revision = .ok text) (content : ¬Text.isBlank text) :
    engine.fileSources path query cap = engine.unitSources path ⟨language, text⟩ cap := by
  simp only [fileSources, resolved, readable, if_neg content]

/-- Searching a file is steady. -/
theorem fileOutcome_steady (apart : Source.Apart known) {path : String} {query : Query}
    {cap : Nat} (listed : engine.fileSources path query cap ⊆ known) :
    Steady engine.analyzer known (engine.fileOutcome path query cap).run := by
  change Steady engine.analyzer known
    (engine.outcomeBy path query fun unit => engine.searchUnit path unit query cap).run
  refine outcomeBy_steady fun language text resolved readable content => ?_
  rw [fileSources_eq cap resolved readable content] at listed
  exact searchUnit_steady apart query listed

/-- Finding everything in a file is steady. -/
theorem completeOutcome_steady (apart : Source.Apart known) {path : String} {query : Query}
    {cap : Nat} (positive : cap ≠ 0) (listed : engine.fileSources path query cap ⊆ known) :
    Steady engine.analyzer known (engine.completeOutcome path query).run := by
  refine outcomeBy_steady fun language text resolved readable content => ?_
  rw [fileSources_eq cap resolved readable content, unitSources, if_neg positive] at listed
  exact allMatches_steady apart query listed

/-- Every cap that is not used up makes a file hash the same. -/
theorem fileSources_congr (engine : Engine) (path : String) (query : Query) {cap other : Nat}
    (positive : cap ≠ 0) (alsoPositive : other ≠ 0) :
    engine.fileSources path query cap = engine.fileSources path query other := by
  simp only [fileSources, unitSources, if_neg positive, if_neg alsoPositive]

/-- Searching a file for its matches alone is steady. -/
theorem searchFile_steady (apart : Source.Apart known) {path : String} {query : Query}
    (listed : engine.fileSources path query query.maxResults ⊆ known) :
    Steady engine.analyzer known (engine.searchFile path query).run :=
  (fileOutcome_steady apart listed).bindExcept fun _ _ => (yields_pure _).steady

/-! ## Directories -/

/-- The sources hashed when candidates are visited, from given caches. A file is only
looked at while the cap is not used up, and an error ends the visit. -/
def visitSources (engine : Engine) (query : Query) : Report → List Candidate → Caches →
    List Source
  | _, [], _ => []
  | report, file :: files, caches =>
    let remaining := query.maxResults - report.results.length
    if remaining = 0 then []
    else
      engine.fileSources file.path query remaining ++
        match (engine.fileOutcome file.path query remaining).runFrom caches with
        | (.ok outcome, caches) => engine.visitSources query (report.add file outcome) files caches
        | (.error _, _) => []

/-- Visiting candidates is steady. -/
theorem visit_steady (apart : Source.Apart known) {query : Query} {files : List Candidate}
    {report : Report} {caches : Caches} (sound : caches.Sound engine.analyzer known)
    (listed : engine.visitSources query report files caches ⊆ known) :
    Steady engine.analyzer known (engine.visit query report files).run := by
  induction files generalizing report caches with
  | nil => exact (yields_pure _).steady
  | cons file files ih =>
    unfold visit
    simp only
    unfold visitSources at listed
    simp only at listed
    split
    · exact (yields_pure _).steady
    · rename_i positive
      rw [if_neg positive] at listed
      obtain ⟨here, later⟩ := List.append_subset.mp listed
      apply (fileOutcome_steady apart here).bindExcept
      intro outcome yields
      obtain ⟨same, kept⟩ := yields caches sound
      have run : (engine.fileOutcome file.path query
          (query.maxResults - report.results.length)).runFrom caches = (.ok outcome, _) :=
        Prod.ext same rfl
      rw [run] at later
      exact ih kept later

/-- The sources hashed when a directory is searched, from given caches. -/
def walkSources (engine : Engine) (root : String) (query : Query) (caches : Caches) :
    List Source :=
  match engine.files.isDirectory root, PathFilter.ofQuery query with
  | true, .ok filter =>
    engine.visitSources query {} (engine.candidates root query filter (engine.listing root)) caches
  | _, _ => []

/-- Searching a directory is steady. -/
theorem walk_steady (apart : Source.Apart known) {root : String} {query : Query}
    {caches : Caches} (sound : caches.Sound engine.analyzer known)
    (listed : engine.walkSources root query caches ⊆ known) :
    Steady engine.analyzer known (engine.walk root query).run := by
  unfold walk
  cases directory : engine.files.isDirectory root with
  | false => exact (yields_throw _).bindError.steady
  | true =>
    cases read : PathFilter.ofQuery query with
    | error error => exact (yields_ofExcept (.error error)).bindError.steady
    | ok filter =>
      simp only [walkSources, directory, read] at listed
      exact Steady.bindOk (yields_ofExcept (.ok filter)) (visit_steady apart sound listed)

/-- Searching a directory for its matches alone is steady. -/
theorem searchDirectory_steady (apart : Source.Apart known) {root : String} {query : Query}
    {caches : Caches} (sound : caches.Sound engine.analyzer known)
    (listed : engine.walkSources root query caches ⊆ known) :
    Steady engine.analyzer known (engine.searchDirectory root query).run :=
  (walk_steady apart sound listed).bindExcept fun _ _ => (yields_pure _).steady

/-- The sources hashed when a scope is searched, from given caches. -/
def scopeSources (engine : Engine) (query : Query) (caches : Caches) : List Source :=
  if engine.files.isDirectory query.scope then engine.walkSources query.scope query caches
  else engine.fileSources query.scope query query.maxResults

/-- Searching a scope is steady. -/
theorem search_steady (apart : Source.Apart known) {query : Query} {caches : Caches}
    (sound : caches.Sound engine.analyzer known)
    (listed : engine.scopeSources query caches ⊆ known) :
    Steady engine.analyzer known (engine.search query).run := by
  unfold search
  unfold scopeSources at listed
  split
  · rename_i directory
    rw [if_pos directory] at listed
    exact searchDirectory_steady apart sound listed
  · rename_i file
    rw [if_neg file] at listed
    exact searchFile_steady apart listed

/-! ## Listings and look-ups -/

/-- The sources hashed when the symbols of a text without a file are listed. -/
def inlineSources (engine : Engine) (unit : SourceUnit) : List Source :=
  engine.analyzer.parsedSources inlineIdentity unit

/-- Listing the symbols of a text without a file is steady. -/
theorem extractSymbols_steady (apart : Source.Apart known) {unit : SourceUnit}
    (listed : engine.inlineSources unit ⊆ known) :
    Steady engine.analyzer known (engine.extractSymbols unit).run :=
  (Analyzer.symbols_yields apart listed).steady

/-- Choosing something from the symbols of a text without a file is steady. -/
theorem lookup_steady {α : Type} (apart : Source.Apart known) {unit : SourceUnit}
    (choose : List Symbol → α) (listed : engine.inlineSources unit ⊆ known) :
    Steady engine.analyzer known
      (do return choose (← engine.extractSymbols unit) : Analysis α).run :=
  (extractSymbols_steady apart listed).bindExcept fun _ _ => (yields_pure _).steady

end CodeAtlas.Engine
