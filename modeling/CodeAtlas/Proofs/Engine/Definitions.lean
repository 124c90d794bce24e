import CodeAtlas.Proofs.Engine.Classes
import CodeAtlas.Proofs.Grammar.Written
import Mathlib.Data.List.Forall2

/-!
# Definition searches list symbols

A search for definitions in a text and a listing of its symbols go different ways: the
search refuses a blank text, stops at its cap and answers errors of the file. Whenever the
symbols can be listed, the two agree, whatever the caches hold and whichever comes first.
-/

namespace CodeAtlas

/-- What a match of a definition search says about a symbol. -/
structure Match.Describes (found : Match) (symbol : Symbol) (identity : String)
    (unit : SourceUnit) (query : Query) : Prop where
  filePath : found.filePath = identity
  language : found.language = unit.language
  startLine : found.startLine = symbol.startLine
  endLine : found.endLine = symbol.endLine
  text : found.text = symbol.signature
  /-- No label is used twice. -/
  labels : (found.details.map Prod.fst).Nodup
  symbolType : found.details.lookup "symbol_type" = some symbol.kind.name
  symbolName : found.details.lookup "symbol_name" = some symbol.name
  parent : found.details.lookup "parent" = symbol.parent
  searchType : found.details.lookup "search_type" = some query.kind.name
  target : found.details.lookup "target" = some query.target

namespace Engine

variable {engine : Engine} {identity : String} {unit : SourceUnit} {query : Query}
  {caches after : Caches} {listed : List Symbol}

/-- The match that a definition search makes of a symbol. -/
def definitionMatch (identity : String) (unit : SourceUnit) (query : Query) (symbol : Symbol) :
    Match :=
  (definitionHit symbol).toMatch identity unit query

/-- The match of a symbol describes it. -/
theorem definitionMatch_describes (identity : String) (unit : SourceUnit) (query : Query)
    (symbol : Symbol) :
    (definitionMatch identity unit query symbol).Describes symbol identity unit query := by
  have details : (definitionMatch identity unit query symbol).details =
      (symbol.parent.map fun name => ("parent", name)).toList ++
        [("search_type", query.kind.name), ("symbol_name", symbol.name),
         ("symbol_type", symbol.kind.name), ("target", query.target)] := by
    simp [Match.details, definitionMatch, definitionHit, Hit.toMatch]
  constructor
  case labels => rw [details]; cases symbol.parent <;> simp
  case symbolType => rw [details]; cases symbol.parent <;> rfl
  case symbolName => rw [details]; cases symbol.parent <;> rfl
  case parent => rw [details]; cases symbol.parent <;> rfl
  case searchType => rw [details]; cases symbol.parent <;> rfl
  case target => rw [details]; cases symbol.parent <;> rfl
  all_goals rfl

/-- The symbols a definition search is about: the first whose name contains the target. -/
def wanted (query : Query) (listed : List Symbol) : List Symbol :=
  (listed.filter fun symbol => Text.contains query.target symbol.name).take query.maxResults

/-- With room for a match, a definition search makes matches of the symbols it is about,
and leaves the caches that a listing leaves. -/
theorem searchUnit_definitions (kind : query.kind = .symbolDefinitions)
    (positive : query.maxResults ≠ 0)
    (done : (engine.analyzer.symbols identity unit).runFrom caches = (.ok listed, after)) :
    (engine.searchUnit identity unit query query.maxResults).runFrom caches =
      (.ok ((wanted query listed).map (definitionMatch identity unit query)), after) := by
  obtain ⟨parsed, grown, outlined, _⟩ := Analyzer.symbols_eq_ok done
  have hits : engine.findDefinitions parsed unit query query.maxResults =
      .ok ((wanted query listed).map definitionHit) := by
    unfold findDefinitions
    rw [outlined]
    rfl
  unfold searchUnit
  rw [if_neg positive, Analysis.runFrom_bind_ok grown, kind]
  simp only [hits]
  rw [Analysis.runFrom_bind_ok (Analysis.runFrom_ofExcept (.ok _) after)]
  simp only [List.map_map]
  rfl

/-- A search of a text that can be listed makes matches of the symbols it is about. It
leaves the caches as they were or as the listing leaves them, and does not look at them for
a blank text. -/
theorem searchSource_eq_wanted (kind : query.kind = .symbolDefinitions)
    (done : (engine.analyzer.symbols identity unit).runFrom caches = (.ok listed, after)) :
    ∃ left, (left = caches ∨ left = after) ∧ (Text.isBlank unit.text = true → left = caches) ∧
      (engine.searchSource identity unit query).runFrom caches =
        (.ok ((wanted query listed).map (definitionMatch identity unit query)), left) := by
  unfold searchSource
  by_cases blank : Text.isBlank unit.text = true
  · obtain ⟨parsed, _, _, rfl⟩ := Analyzer.symbols_eq_ok done
    refine ⟨caches, .inl rfl, fun _ => rfl, ?_⟩
    rw [if_pos blank, Outline.symbols_blank unit.language.namesWritten blank]
    simp only [wanted, List.filter_nil, List.take_nil, List.map_nil]
    rfl
  · rw [if_neg blank]
    by_cases spent : query.maxResults = 0
    · refine ⟨caches, .inl rfl, fun _ => rfl, ?_⟩
      unfold searchUnit
      rw [wanted, spent, List.take_zero, if_pos rfl]
      rfl
    · refine ⟨after, .inr rfl, fun empty => absurd empty blank, ?_⟩
      exact Analysis.runFrom_tryCatch_ok _ (searchUnit_definitions kind spent done)

/-- Whenever the symbols of a text can be listed, a search for definitions in it succeeds,
before the listing and after it, and finds exactly the first symbols of the list whose name
contains the target, each described by its match. A blank text has no symbols and no
matches, and the search does not parse it. -/
theorem searchSource_lists_symbols (engine : Engine) (identity : String) (unit : SourceUnit)
    (query : Query) (kind : query.kind = .symbolDefinitions) (caches after : Caches)
    (listed : List Symbol)
    (done : (engine.analyzer.symbols identity unit).runFrom caches = (.ok listed, after)) :
    ∃ found left,
      (engine.searchSource identity unit query).runFrom caches = (.ok found, left) ∧
      ((engine.analyzer.symbols identity unit).runFrom left).1 = .ok listed ∧
      ((engine.searchSource identity unit query).runFrom after).1 = .ok found ∧
      List.Forall₂ (fun symbol hit => Match.Describes hit symbol identity unit query)
        ((listed.filter fun symbol => Text.contains query.target symbol.name).take
          query.maxResults) found ∧
      (Text.isBlank unit.text = true → listed = [] ∧ found = [] ∧ left = caches) := by
  have again := Analyzer.symbols_again done
  obtain ⟨left, either, untouched, searched⟩ := searchSource_eq_wanted kind done
  obtain ⟨_, _, _, later⟩ := searchSource_eq_wanted kind again
  refine ⟨_, left, searched, ?_, ?_, ?_, ?_⟩
  · rcases either with rfl | rfl
    · rw [done]
    · rw [again]
  · rw [later]
  · change List.Forall₂ _ (wanted query listed) _
    rw [List.forall₂_map_right_iff, List.forall₂_same]
    exact fun symbol _ => definitionMatch_describes identity unit query symbol
  · intro blank
    obtain ⟨parsed, _, _, outline⟩ := Analyzer.symbols_eq_ok done
    have none : listed = [] := by
      rw [outline, Outline.symbols_blank unit.language.namesWritten blank]
    exact ⟨none, by simp [wanted, none], untouched blank⟩

/-- The method of a class is found after a listing by a search for its name. -/
theorem searchSource_lists_symbols_sole :
    let query : Query := { kind := .symbolDefinitions, target := "f", scope := "" }
    ∃ after found,
      ((ofTree soleTree).analyzer.symbols inlineIdentity soleUnit).runFrom
        (ofTree soleTree).freshCaches = (.ok soleSymbols, after) ∧
      (((ofTree soleTree).searchSource inlineIdentity soleUnit query).runFrom after).1 =
        .ok [found] ∧
      found.text = "def f(self):" ∧ found.details.lookup "parent" = some "A" := by
  intro query
  obtain ⟨after, listed⟩ := extractSymbols_sole
  obtain ⟨found, _, _, _, searched, described, _⟩ := searchSource_lists_symbols
    (ofTree soleTree) inlineIdentity soleUnit query rfl _ after soleSymbols listed
  have first : (soleSymbols.filter fun symbol => Text.contains query.target symbol.name).take
      query.maxResults = [soleSymbols.get ⟨1, by decide⟩] := by decide +kernel
  rw [first] at described
  obtain ⟨hit, _, describes, rest, rfl⟩ := List.forall₂_cons_left_iff.mp described
  cases rest
  exact ⟨after, hit, listed, searched, describes.text, describes.parent⟩

end Engine

end CodeAtlas
