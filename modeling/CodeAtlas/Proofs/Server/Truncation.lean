import CodeAtlas.Proofs.Engine.Cap
import CodeAtlas.Proofs.Server.Lookups

/-!
# Truncated searches

A search says that it was truncated when its cap kept it from looking at some file. The
cap can also cut the matches of the last file it looks at, or of a scope that is one
file, and then the answer does not say so. A search that is not said to be truncated has
therefore all matches of every file of its scope but the last, and of the last one the
first.
-/

namespace CodeAtlas

/-! ## Other caps -/

namespace Arguments

/-- The same arguments with another cap. -/
def withMaxResults (limit : Nat) : Json → Json
  | .object fields => .object (Json.insertField "max_results" (.nat limit) fields)
  | other => other

/-- All other fields stay as they are. -/
theorem field?_withMaxResults (limit : Nat) (arguments : Json) {name : String}
    (other : name ≠ "max_results") :
    (withMaxResults limit arguments).field? name = arguments.field? name := by
  cases arguments with
  | object fields =>
    simp only [withMaxResults, Json.field?, Json.find?_insertField, if_neg other.symm]
  | _ => rfl

/-- The cap is as given. -/
theorem count?_withMaxResults (limit : Nat) (fields : List (String × Json)) :
    count? (withMaxResults limit (.object fields)) "max_results" = some limit := by
  simp [count?, withMaxResults, Json.field?, Json.find?_insertField, Json.nat, Json.asNat?]

/-- The query asks for the same with another cap. -/
theorem query_withMaxResults (config : Config) (limit : Nat) (arguments : Json) :
    query config (withMaxResults limit arguments) =
      (fun asked => { asked with maxResults := limit }) <$> query config arguments := by
  cases arguments with
  | object fields =>
    unfold query
    rw [count?_withMaxResults]
    simp only [text, text?, count?, flag?, texts, ne_eq, String.reduceEq, not_false_eq_true,
      field?_withMaxResults, map_bind, map_pure, Option.getD_some]
  | _ => rfl

end Arguments

namespace Engine

variable {engine : Engine} {query : Query} {caches : Caches} {report : Report}

/-- The files that a search of the query's scope looks at, in order, if its cap allows. -/
def scopePaths (engine : Engine) (query : Query) : List String :=
  if engine.files.isDirectory query.scope then
    match PathFilter.ofQuery query with
    | .ok filter => (engine.candidates query.scope query filter
        (engine.listing query.scope)).map Candidate.path
    | .error _ => []
  else [query.scope]

/-- Some matches are the first of others, and those left out stand in one file. -/
structure CutIn (path? : Option String) (cap : Nat) (found whole : List Match) : Prop where
  first : found = whole.take cap
  rest : ∀ hit ∈ whole.drop cap, path? = some hit.filePath

/-- The complete outcomes of the files of a directory end with that of the last one. -/
theorem searchAll_concat {files : List Candidate} {file : Candidate}
    {outcomes : List FileOutcome} {after : Caches}
    (complete : (engine.searchAll query (files ++ [file])).runFrom caches = (.ok outcomes, after)) :
    ∃ before outcome, outcomes = before ++ [outcome] ∧
      ∀ hit ∈ outcome.results, hit.filePath = file.path := by
  unfold searchAll at complete
  rw [List.mapM_append] at complete
  obtain ⟨before, _, _, rest⟩ := Analysis.runFrom_bind_eq_ok complete
  rw [List.mapM_cons, List.mapM_nil] at rest
  obtain ⟨last, _, listed, joined⟩ := Analysis.runFrom_bind_eq_ok rest
  obtain ⟨outcome, _, searched, only⟩ := Analysis.runFrom_bind_eq_ok listed
  cases only
  cases joined
  exact ⟨before, outcome, rfl, filePath_of_completeOutcome searched⟩

/-- When the matches of all outcomes but the last fit, those left out are of the last. -/
theorem mem_last_of_mem_drop {before : List FileOutcome} {outcome : FileOutcome} {cap : Nat}
    {hit : Match} (fits : (before.flatMap FileOutcome.results).length ≤ cap)
    (left : hit ∈ ((before ++ [outcome]).flatMap FileOutcome.results).drop cap) :
    hit ∈ outcome.results := by
  rw [List.flatMap_append, List.drop_append, List.drop_of_length_le fits, List.nil_append,
    List.flatMap_singleton] at left
  exact List.mem_of_mem_drop left

/-- A directory search that looked at every candidate has the first matches of the search
with any larger cap, and lacks only matches of the last candidate. -/
theorem walk_cut {root : String} {limit : Nat}
    (walked : ((engine.walk root query).runFrom caches).1 = .ok report)
    (untruncated : report.truncated = false) (ample : query.maxResults ≤ limit) :
    ∃ filter whole, PathFilter.ofQuery query = .ok filter ∧
      ((engine.walk root { query with maxResults := limit }).runFrom caches).1 = .ok whole ∧
      CutIn ((engine.candidates root query filter (engine.listing root)).map
        Candidate.path).getLast? query.maxResults report.results whole.results := by
  obtain ⟨directory, filter, visited, after, read, run⟩ := walk_eq_ok walked
  have all : visited = engine.candidates root query filter (engine.listing root) := by
    obtain all | ⟨truncated, _⟩ := visitLog_stops run
    · exact all
    · cases truncated.symm.trans untruncated
  obtain ⟨outcomes, complete, room⟩ := visitLog_all run all
  obtain ⟨last, _, again, _, found⟩ := walk_of_complete directory read complete
  cases walked.symm.trans again
  -- Neither the globs nor the candidates nor their complete outcomes refer to the cap.
  have wider : (engine.searchAll { query with maxResults := limit }
      (engine.candidates root { query with maxResults := limit } filter
        (engine.listing root))).runFrom caches = (.ok outcomes, after) := complete
  have readable : PathFilter.ofQuery { query with maxResults := limit } = .ok filter := read
  obtain ⟨whole, _, searched, _, wide⟩ := walk_of_complete directory readable wider
  refine ⟨filter, whole, read, searched, ?_, fun hit member => ?_⟩
  · rw [found.results_take, wide.results_take, List.take_take, Nat.min_eq_left ample]
  · rw [wide.results_take, List.drop_take] at member
    have left := List.mem_of_mem_take member
    generalize engine.candidates root query filter (engine.listing root) = files at complete ⊢
    obtain rfl | ⟨files, file, rfl⟩ := List.eq_nil_or_concat files
    · cases complete
      simp at left
    · rw [List.concat_eq_append] at complete ⊢
      obtain ⟨before, outcome, rfl, placed⟩ := searchAll_concat complete
      have fits := room (by simp)
      rw [List.dropLast_concat] at fits
      have short : (before.flatMap FileOutcome.results).length ≤ query.maxResults := by
        simp only [List.length_nil] at fits
        omega
      simp [placed hit (mem_last_of_mem_drop short left)]

/-- A search of one file that finds something has the first matches of the search with any
larger cap. -/
theorem searchFile_cut {path : String} {limit : Nat} {found : List Match} {after : Caches}
    (searched : (engine.searchFile path query).runFrom caches = (.ok found, after))
    (some : found ≠ []) (ample : query.maxResults ≤ limit) :
    ∃ whole, (engine.searchFile path { query with maxResults := limit }).runFrom caches =
        (.ok whole, after) ∧ CutIn (.some path) query.maxResults found whole := by
  unfold searchFile at searched ⊢
  obtain ⟨capped, left, run, same⟩ := Analysis.runFrom_bind_eq_ok searched
  cases same
  have positive : query.maxResults ≠ 0 := by
    intro zero
    have bound := length_fileOutcome run
    rw [zero] at bound
    exact some (List.eq_nil_of_length_eq_zero (Nat.le_zero.mp bound))
  obtain ⟨outcome, complete, rfl⟩ := exists_completeOutcome positive run
  have wider : (engine.completeOutcome path { query with maxResults := limit }).runFrom caches =
      (.ok outcome, after) := complete
  refine ⟨(outcome.take limit).results, ?_, ?_, fun hit member => ?_⟩
  · simp only
    rw [fileOutcome_eq engine path _ (by omega), bind_map_left, Analysis.runFrom_bind_ok wider]
    rfl
  · rw [FileOutcome.results_take, FileOutcome.results_take, List.take_take,
      Nat.min_eq_left ample]
  · rw [FileOutcome.results_take] at member
    have found := List.mem_of_mem_take (List.mem_of_mem_drop member)
    rw [filePath_of_completeOutcome complete hit found]

/-- A search that finds or reports something, and is not said to be truncated, has the
first matches of the search with any larger cap, and lacks only matches of the last file of
its scope. -/
theorem report_cut {limit : Nat}
    (searched : ((engine.report query).runFrom caches).1 = .ok report)
    (visible : report.results ≠ [] ∨ report.failures ≠ [])
    (untruncated : report.truncated = false) (ample : query.maxResults ≤ limit) :
    ∃ whole, ((engine.report { query with maxResults := limit }).runFrom caches).1 = .ok whole ∧
      CutIn (engine.scopePaths query).getLast? query.maxResults report.results whole.results := by
  unfold Engine.report at searched ⊢
  unfold scopePaths
  cases directory : engine.files.isDirectory query.scope with
  | true =>
    simp only [directory, if_true] at searched ⊢
    obtain ⟨filter, whole, read, again, cut⟩ := walk_cut searched untruncated ample
    rw [read]
    exact ⟨whole, again, cut⟩
  | false =>
    simp only [directory, Bool.false_eq_true, if_false] at searched ⊢
    cases run : (engine.searchFile query.scope query).runFrom caches with
    | mk result after =>
      cases result with
      | error error =>
        rw [Analysis.runFrom_bind_error run] at searched
        cases searched
      | ok found =>
        rw [Analysis.runFrom_bind_ok run] at searched
        cases searched
        have some : found ≠ [] := visible.resolve_right fun failed => failed rfl
        obtain ⟨whole, again, cut⟩ := searchFile_cut run some ample
        rw [Analysis.runFrom_bind_ok again]
        exact ⟨_, rfl, cut⟩

/-! ## Calls -/

/-- A search is answered with the report on its query. -/
theorem call_search_eq_ok {arguments : Json} {answer : ToolAnswer} :
    ((engine.call arguments .search).run.run caches).1 = .ok answer ↔
      ∃ query report, Arguments.query engine.config arguments = .ok query ∧
        ((engine.report query).runFrom caches).1 = .ok report ∧ answer = .search report := by
  unfold call
  cases Arguments.query engine.config arguments with
  | error failure =>
    change Except.error failure = .ok answer ↔ _
    simp
  | ok query =>
    change (((do
      let report ← Calling.ofAnalysis (engine.report query)
      return ToolAnswer.search report : Calling ToolAnswer).run.run caches).1 = .ok answer) ↔ _
    rw [← map_eq_pure_bind, ExceptT.run_map, StateT.run_map]
    change Except.map _ (((engine.report query).runFrom caches).1.mapError _) = .ok answer ↔ _
    cases searched : ((engine.report query).runFrom caches).1 with
    | error error => simp [Except.mapError, Except.map, searched]
    | ok report => simp [Except.mapError, Except.map, searched, eq_comm]

/-- A search that is answered with `truncated` set to false has exactly the first matches
of the same search with any larger cap, up to its own cap, and all matches that it lacks
stand in the last file of its scope, in the order of the paths. In particular it lacks
nothing when it has fewer matches than its cap allows. -/
theorem call_search_untruncated (engine : Engine) (arguments : Json) (caches : Caches)
    (answer : ToolAnswer)
    (answered : ((engine.call arguments .search).run.run caches).1 = .ok answer)
    (visible : answer.isEmpty = false)
    (untruncated : answer.toJson.field? "truncated" = some (.bool false)) :
    ∃ query report, Arguments.query engine.config arguments = .ok query ∧
      answer = .search report ∧
      ∀ limit, query.maxResults ≤ limit → ∃ whole,
        ((engine.call (Arguments.withMaxResults limit arguments) .search).run.run caches).1 =
          .ok (.search whole) ∧
        report.results = whole.results.take query.maxResults ∧
        (∀ hit ∈ whole.results.drop query.maxResults,
          (engine.scopePaths query).getLast? = some hit.filePath) ∧
        (report.results.length < query.maxResults → report.results = whole.results) := by
  obtain ⟨query, report, read, searched, rfl⟩ := call_search_eq_ok.mp answered
  have shown : report.truncated = false := by
    simpa [ToolAnswer.toJson, Json.field?_ofFields, List.lookup_cons] using untruncated
  have some : report.results ≠ [] ∨ report.failures ≠ [] := by
    simpa [ToolAnswer.isEmpty, Decidable.or_iff_not_imp_left] using visible
  refine ⟨query, report, read, rfl, fun limit ample => ?_⟩
  obtain ⟨whole, again, cut⟩ := report_cut searched some shown ample
  refine ⟨whole, ?_, cut.first, cut.rest, fun short => ?_⟩
  · refine call_search_eq_ok.mpr ⟨{ query with maxResults := limit }, whole, ?_, again, rfl⟩
    rw [Arguments.query_withMaxResults, read]
    rfl
  · rw [cut.first, List.length_take] at short
    rw [cut.first, List.take_of_length_le (by omega)]

/-- An engine for a directory with one file that holds two calls. -/
def callPair : Engine where
  config := {}
  analyzer := { parser :=
    { tree? := fun _ _ => some (.mk "module" true "" 0 7
        [.mk "call" true "" 0 3 [], .mk "call" true "" 4 7 []])
      knowsKind := fun _ _ => true } }
  files := { root := .directory [("a.py", .file "f() g()".toUTF8)] }
  source _ _ := .ok "f() g()".toUTF8

/-- The arguments of a search for one call in the file. -/
def firstCall : Json :=
  .object [("max_results", .nat 1), ("scope", .string "/a.py"),
    ("search_type", .string "function-calls"), ("target", .string "()")]

/-- The query for at most so many calls in the file. -/
def fileCalls (limit : Nat) : Query :=
  { kind := .functionCalls, target := "()", scope := "/a.py", maxResults := limit,
    includeContext := true }

/-- The path of the file leads to no directory. -/
theorem isDirectory_fileCalls (limit : Nat) :
    callPair.files.isDirectory (fileCalls limit).scope = false := by
  have resolved : callPair.files.resolve "/a.py" = .ok ["a.py"] := by
    change FileSystem.resolveNames callPair.files .present 40 [] ["", "a.py"] = _
    rw [FileSystem.resolveNames, FileSystem.resolveNames]
    change FileSystem.resolveNames callPair.files .present 40 ["a.py"] [] = _
    rw [FileSystem.resolveNames]
  change callPair.files.isDirectory "/a.py" = false
  unfold FileSystem.isDirectory
  rw [resolved]
  rfl

/-- A search of the file finds its two calls, as far as the cap allows, and is never said
to be truncated. -/
theorem call_firstCall {limit : Nat} (chosen : limit = 1 ∨ limit = 100) :
    ∃ report, ((callPair.call (Arguments.withMaxResults limit firstCall) .search).run.run
        callPair.freshCaches).1 = .ok (.search report) ∧
      report.results.length = min limit 2 ∧ report.truncated = false := by
  have query : Arguments.query callPair.config (Arguments.withMaxResults limit firstCall) =
      .ok (fileCalls limit) := rfl
  have count : ((callPair.searchFile (fileCalls limit).scope (fileCalls limit)).runFrom
      callPair.freshCaches).1.toOption.map List.length = some (min limit 2) := by
    rcases chosen with rfl | rfl <;> decide +kernel
  cases run : (callPair.searchFile (fileCalls limit).scope (fileCalls limit)).runFrom
      callPair.freshCaches with
  | mk result after =>
    cases result with
    | error error =>
      rw [run] at count
      cases count
    | ok found =>
      rw [run] at count
      refine ⟨{ results := found, filesSearched := 1 }, ?_, Option.some.inj count, rfl⟩
      refine call_search_eq_ok.mpr ⟨_, _, query, ?_, rfl⟩
      unfold Engine.report
      rw [isDirectory_fileCalls, if_neg Bool.false_ne_true, Analysis.runFrom_bind_ok run]
      rfl

/-- With a cap of one, the search of the file has the first of its matches, and all others
stand in the file as well. -/
theorem call_search_untruncated_file :
    ∃ report whole : Report,
      ((callPair.call firstCall .search).run.run callPair.freshCaches).1 = .ok (.search report) ∧
      report.results = whole.results.take 1 ∧
      ∀ hit ∈ whole.results.drop 1, hit.filePath = "/a.py" := by
  obtain ⟨report, answered, count, flag⟩ := call_firstCall (.inl rfl)
  have visible : (ToolAnswer.search report).isEmpty = false := by
    cases found : report.results with
    | nil => simp [found] at count
    | cons hit hits => simp [ToolAnswer.isEmpty, found]
  have untruncated : (ToolAnswer.search report).toJson.field? "truncated" =
      some (.bool false) := by
    simp [ToolAnswer.toJson, Json.field?_ofFields, List.lookup_cons, flag]
  obtain ⟨query, _, read, same, cut⟩ := call_search_untruncated callPair firstCall
    callPair.freshCaches _ answered visible untruncated
  cases same
  obtain rfl : fileCalls 1 = query := Except.ok.inj read
  obtain ⟨whole, _, first, rest, _⟩ := cut 100 (by decide)
  refine ⟨report, whole, answered, first, fun hit member => ?_⟩
  have last := rest hit member
  rw [scopePaths, isDirectory_fileCalls, if_neg Bool.false_ne_true] at last
  exact (Option.some.inj last).symm

/-- A search of one file that lacks a match is not said to be truncated. -/
theorem call_search_untruncated_cut :
    ∃ report whole : Report,
      ((callPair.call firstCall .search).run.run callPair.freshCaches).1 = .ok (.search report) ∧
      (ToolAnswer.search report).toJson.field? "truncated" = some (.bool false) ∧
      ((callPair.call (Arguments.withMaxResults 100 firstCall) .search).run.run
        callPair.freshCaches).1 = .ok (.search whole) ∧
      report.results.length = 1 ∧ whole.results.length = 2 := by
  obtain ⟨report, answered, one, flag⟩ := call_firstCall (.inl rfl)
  obtain ⟨whole, completed, two, _⟩ := call_firstCall (.inr rfl)
  refine ⟨report, whole, answered, ?_, completed, one, two⟩
  simp [ToolAnswer.toJson, Json.field?_ofFields, List.lookup_cons, flag]

end Engine

end CodeAtlas
