import CodeAtlas.Proofs.Caches.Ensures
import CodeAtlas.Proofs.Engine.Complete
import CodeAtlas.Proofs.Engine.Filter

/-!
# What makes a search fail

Everything that goes wrong while the text of one file is searched concerns that file and
becomes its outcome. What can still end a visit is an error of the content source that does
not concern one file, and only for a candidate that is looked at.
-/

namespace CodeAtlas.Engine

open Caches

variable {engine : Engine} {query : Query}

/-! ## One text, one file -/

/-- Failures of a search for calls concern one file. -/
theorem findCalls_ensures (compiles : engine.analyzer.PatternsCompile) (parsed : ParsedTree)
    (unit : SourceUnit) (query : Query) (cap : Nat) :
    Ensures engine.analyzer (engine.findCalls parsed unit query cap).run
      (Outcome (fun error => error.isPerFile = true) fun _ => True) := by
  unfold findCalls
  apply (Analyzer.compileFor_ensures compiles unit.language).bindExcept
  intro found compiled
  cases found with
  | none => exact ensures_return trivial
  | some pattern =>
    have index := Analyzer.callPattern_index (compiled pattern rfl)
    simp only
    rw [if_neg (by simp [Option.isNone_iff_eq_none, Option.isSome_iff_ne_none.mp index])]
    exact ensures_return trivial

/-- Failures of a search for definitions concern one file. -/
theorem findDefinitions_outcome (engine : Engine) (parsed : ParsedTree) (unit : SourceUnit)
    (query : Query) (cap : Nat) :
    Outcome (fun error : SearchError => error.isPerFile = true) (fun _ => True)
      (engine.findDefinitions parsed unit query cap) := by
  have outlined := engine.analyzer.outline_outcome parsed unit
  unfold findDefinitions
  cases failed : engine.analyzer.outline parsed unit with
  | error error =>
    rw [failed] at outlined
    exact outlined
  | ok symbols => trivial

/-- Failures of a search in a text concern one file. -/
theorem searchUnit_ensures (compiles : engine.analyzer.PatternsCompile) (identity : String)
    (unit : SourceUnit) (query : Query) (cap : Nat) :
    Ensures engine.analyzer (engine.searchUnit identity unit query cap).run
      (Outcome (fun error => error.isPerFile = true) fun _ => True) := by
  unfold searchUnit
  split
  · exact ensures_return trivial
  · apply (engine.analyzer.parse_ensures identity unit).bindExcept
    intro parsed _
    cases query.kind with
    | functionCalls =>
      apply (findCalls_ensures compiles parsed unit query cap).bindExcept
      exact fun _ _ => ensures_return trivial
    | symbolDefinitions =>
      apply (ensures_ofExcept (engine.findDefinitions_outcome parsed unit query cap)).bindExcept
      exact fun _ _ => ensures_return trivial

/-- A search in a text in memory does not fail. -/
theorem searchSource_ensures (compiles : engine.analyzer.PatternsCompile) (identity : String)
    (unit : SourceUnit) (query : Query) :
    Ensures engine.analyzer (engine.searchSource identity unit query).run
      (Outcome (fun _ => False) fun _ => True) := by
  unfold searchSource
  split
  · exact ensures_return trivial
  · apply (searchUnit_ensures compiles identity unit query query.maxResults).tryCatch
    intro error perFile
    rw [if_pos perFile]
    exact ensures_return trivial

/-- An error of the content source that a file cannot contain. -/
def Blocks (engine : Engine) (query : Query) (path : String) (error : SearchError) : Prop :=
  (engine.resolveLanguage? path query).isSome = true ∧
    engine.source path query.revision = .error error ∧ error.isPerFile = false

/-- An error that concerns one file is no error of the search. -/
theorem contain_outcome {error : SearchError} (perFile : error.isPerFile = true)
    {fails : SearchError → Prop} {holds : FileOutcome → Prop}
    (known : holds (.failed error.message)) : Outcome fails holds (contain error) := by
  unfold contain
  rw [if_pos perFile]
  exact known

/-- Content that is no text is binary. -/
theorem decodeText_eq_error {path : String} {content : ByteArray} {error : SearchError}
    (failed : decodeText path content = .error error) : error = .binary path := by
  unfold decodeText at failed
  split at failed
  · cases failed
    rfl
  · split at failed
    · cases failed
    · cases failed
      rfl

/-- A search of a file fails exactly with what the file cannot contain. -/
theorem fileOutcome_ensures (compiles : engine.analyzer.PatternsCompile) (path : String)
    (query : Query) (cap : Nat) :
    Ensures engine.analyzer (engine.fileOutcome path query cap).run
      (Outcome (engine.Blocks query path) fun _ => ∀ error, ¬engine.Blocks query path error) := by
  unfold fileOutcome
  cases resolved : engine.resolveLanguage? path query with
  | none =>
    refine ensures_return fun error blocks => ?_
    rw [Blocks, resolved] at blocks
    exact absurd blocks.1 (by simp)
  | some language =>
    cases read : engine.source path query.revision with
    | error error =>
      apply ensures_ofExcept
      cases perFile : error.isPerFile with
      | true =>
        refine contain_outcome perFile fun other blocks => ?_
        cases read.symm.trans blocks.2.1
        cases perFile.symm.trans blocks.2.2
      | false =>
        unfold contain
        rw [perFile]
        exact ⟨by rw [resolved]; rfl, read, perFile⟩
    | ok content =>
      -- The content is there, so nothing is blocked from here on.
      have free : ∀ error, ¬engine.Blocks query path error :=
        fun error blocks => nomatch read.symm.trans blocks.2.1
      simp only
      split
      · exact ensures_return free
      · split
        · exact ensures_return free
        · rename_i error _ decoded
          rw [decodeText_eq_error decoded]
          exact ensures_ofExcept (contain_outcome rfl free)
        · split
          · exact ensures_return free
          · rename_i text _ _
            have searched := searchUnit_ensures compiles path ⟨language, text⟩ query cap
            refine Ensures.tryCatch (searched.bindExcept fun _ _ => ensures_return free) ?_
            exact fun error perFile => ensures_ofExcept (contain_outcome perFile free)

/-! ## Directories -/

/-- One more file in front of a visit. -/
theorem visit_cons_runFrom (engine : Engine) (query : Query) (report : Report)
    (file : Candidate) (files : List Candidate) (caches : Caches) :
    (engine.visit query report (file :: files)).runFrom caches =
      let remaining := query.maxResults - report.results.length
      if remaining = 0 then (.ok { report with truncated := true }, caches)
      else
        match (engine.fileOutcome file.path query remaining).runFrom caches with
        | (.error error, after) => (.error error, after)
        | (.ok outcome, after) =>
          (engine.visit query (report.add file outcome) files).runFrom after := by
  rw [visit]
  simp only
  split
  · rfl
  · cases run : (engine.fileOutcome file.path query
        (query.maxResults - report.results.length)).runFrom caches with
    | mk result after =>
      cases result with
      | error error => rw [Analysis.runFrom_bind_error run]
      | ok outcome => rw [Analysis.runFrom_bind_ok run]

/-- A visit fails at a candidate: those before it were searched, the cap was not used up,
and its content is blocked. -/
def StopsAt (engine : Engine) (query : Query) (report : Report) (files : List Candidate)
    (caches : Caches) (error : SearchError) : Prop :=
  ∃ before file after searched, files = before ++ file :: after ∧
    ((engine.visit query report before).runFrom caches).1 = .ok searched ∧
    searched.results.length < query.maxResults ∧ engine.Blocks query file.path error

/-- A visit fails exactly with the error at which it stops. -/
theorem visit_eq_error (compiles : engine.analyzer.PatternsCompile) {files : List Candidate}
    {report : Report} {caches : Caches} (right : caches.PatternsSound engine.analyzer)
    {error : SearchError} :
    ((engine.visit query report files).runFrom caches).1 = .error error ↔
      engine.StopsAt query report files caches error := by
  induction files generalizing report caches with
  | nil =>
    refine ⟨fun failed => (nomatch failed), ?_⟩
    rintro ⟨before, file, after, _, split, _⟩
    simp at split
  | cons file files ih =>
    have step (files : List Candidate) :=
      engine.visit_cons_runFrom query report file files caches
    by_cases spent : query.maxResults - report.results.length = 0
    · -- Nothing is looked at once the cap is used up.
      simp only [spent, if_true] at step
      rw [step]
      refine ⟨fun failed => (nomatch failed), ?_⟩
      rintro ⟨before, _, after, searched, split, done, room, _⟩
      have same : searched.results.length = report.results.length := by
        cases before with
        | nil => cases done; rfl
        | cons first before =>
          obtain ⟨rfl, _⟩ := List.cons.inj split
          rw [step] at done
          cases done
          rfl
      omega
    · simp only [if_neg spent] at step
      obtain ⟨outcome, kept⟩ := fileOutcome_ensures compiles file.path query
        (query.maxResults - report.results.length) caches right
      cases run : (engine.fileOutcome file.path query
          (query.maxResults - report.results.length)).runFrom caches with
      | mk result between =>
        change Outcome _ _ (Analysis.runFrom _ caches).1 at outcome
        change (Analysis.runFrom _ caches).2.PatternsSound _ at kept
        rw [run] at outcome kept
        simp only [run] at step
        cases result with
        | error fault =>
          rw [step]
          constructor
          · rintro ⟨⟩
            exact ⟨[], file, files, report, rfl, rfl, by omega, outcome⟩
          · rintro ⟨before, other, after, searched, split, done, _, blocks⟩
            cases before with
            | nil =>
              cases split
              cases outcome.2.1.symm.trans blocks.2.1
              rfl
            | cons first before =>
              obtain ⟨rfl, _⟩ := List.cons.inj split
              rw [step] at done
              cases done
        | ok visited =>
          rw [step, ih kept]
          constructor
          · rintro ⟨before, other, after, searched, rfl, done, room, blocks⟩
            refine ⟨file :: before, other, after, searched, rfl, ?_, room, blocks⟩
            rw [step]
            exact done
          · rintro ⟨before, other, after, searched, split, done, room, blocks⟩
            cases before with
            | nil =>
              cases split
              exact absurd blocks (outcome error)
            | cons first before =>
              obtain ⟨rfl, rfl⟩ := List.cons.inj split
              rw [step] at done
              exact ⟨before, other, after, searched, rfl, done, room, blocks⟩

/-- A walk fails exactly when its root is no directory, when its globs are refused, or
with the error at which its visit stops. -/
theorem walk_eq_error (compiles : engine.analyzer.PatternsCompile) (root : String)
    (query : Query) {caches : Caches} (right : caches.PatternsSound engine.analyzer)
    (error : SearchError) :
    ((engine.walk root query).runFrom caches).1 = .error error ↔
      (engine.files.isDirectory root = false ∧ error = .notFound root) ∨
      (engine.files.isDirectory root = true ∧
        ∃ fault, PathFilter.QueryFault query fault ∧ error = .invalidGlob fault) ∨
      (engine.files.isDirectory root = true ∧ ∃ filter, PathFilter.ofQuery query = .ok filter ∧
        engine.StopsAt query {} (engine.candidates root query filter (engine.listing root))
          caches error) := by
  rw [← PathFilter.ofQuery_eq_error]
  unfold walk
  cases engine.files.isDirectory root with
  | false =>
    change Except.error (SearchError.notFound root) = .error error ↔ _
    simp [eq_comm]
  | true =>
    cases read : PathFilter.ofQuery query with
    | error fault =>
      change Except.error fault = .error error ↔ _
      simp
    | ok filter =>
      change ((engine.visit query {} _).runFrom caches).1 = .error error ↔ _
      rw [visit_eq_error compiles right]
      simp

/-! ## Right patterns in every search -/

/-- A visit leaves right patterns. -/
theorem visit_keeps (compiles : engine.analyzer.PatternsCompile) (query : Query)
    (report : Report) (files : List Candidate) :
    Keeps engine.analyzer (engine.visit query report files) := by
  induction files generalizing report with
  | nil => exact keeps_ofExcept (.ok report)
  | cons file files ih =>
    unfold visit
    simp only
    split
    · exact keeps_ofExcept (.ok _)
    · exact (fileOutcome_ensures compiles file.path query _).keeps.bind fun _ => ih _

/-- A walk leaves right patterns. -/
theorem walk_keeps (compiles : engine.analyzer.PatternsCompile) (root : String)
    (query : Query) : Keeps engine.analyzer (engine.walk root query) := by
  unfold walk
  split
  · exact (keeps_ofExcept (.error _)).bind fun _ =>
      (keeps_ofExcept _).bind fun _ => visit_keeps compiles query _ _
  · exact (keeps_ofExcept _).bind fun _ => visit_keeps compiles query _ _

/-- A search of a file leaves right patterns. -/
theorem searchFile_keeps (compiles : engine.analyzer.PatternsCompile) (path : String)
    (query : Query) : Keeps engine.analyzer (engine.searchFile path query) :=
  (fileOutcome_ensures compiles path query query.maxResults).keeps.bind fun _ =>
    keeps_ofExcept (.ok _)

/-- A look-up leaves right patterns. -/
theorem lookup_keeps {α : Type} (engine : Engine) (unit : SourceUnit)
    (choose : List Symbol → α) :
    Keeps engine.analyzer (do return choose (← engine.extractSymbols unit) : Analysis α) :=
  (engine.analyzer.symbols_ensures inlineIdentity unit).keeps.bind fun _ => keeps_ofExcept (.ok _)

end CodeAtlas.Engine
