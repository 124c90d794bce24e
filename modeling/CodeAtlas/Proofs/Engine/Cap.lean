import CodeAtlas.Proofs.Engine.Complete

/-!
# The cap of a directory search

The cap is one budget for all files of a directory. A walk that stays below its cap has
searched every candidate completely; the same walk with another cap looks at some first
candidates only, and finds the first matches of the complete walk. What a walk looks at is
recorded by a second walk that also lists the files, and is otherwise the same.
-/

namespace CodeAtlas

/-! ## Reports -/

/-- What a file adds to the failures of a report. -/
def FileOutcome.failures (file : Candidate) : FileOutcome → List FileFailure
  | .searched _ => []
  | .skipped _ => []
  | .failed reason => [⟨file.relative, reason⟩]

/-- Cutting an outcome does not make it a failure. -/
@[simp]
theorem FileOutcome.failures_take (file : Candidate) (cap : Nat) (outcome : FileOutcome) :
    (outcome.take cap).failures file = outcome.failures file := by
  cases outcome <;> rfl

/-- The matches of a file are added at the end. -/
@[simp]
theorem Report.results_add (report : Report) (file : Candidate) (outcome : FileOutcome) :
    (report.add file outcome).results = report.results ++ outcome.results := by
  cases outcome with
  | searched found => rfl
  | skipped reason => exact (List.append_nil _).symm
  | failed reason => exact (List.append_nil _).symm

/-- The failure of a file is added at the end. -/
@[simp]
theorem Report.failures_add (report : Report) (file : Candidate) (outcome : FileOutcome) :
    (report.add file outcome).failures = report.failures ++ outcome.failures file := by
  cases outcome with
  | searched found => exact (List.append_nil _).symm
  | skipped reason => exact (List.append_nil _).symm
  | failed reason => rfl

/-- The failures among the outcomes of files, in order. -/
def failuresOf (files : List Candidate) (outcomes : List FileOutcome) : List FileFailure :=
  (files.zip outcomes).flatMap fun visit => visit.2.failures visit.1

/-- Fewer files have the first failures. -/
theorem failuresOf_prefix {visited files : List Candidate} (outcomes : List FileOutcome)
    (first : visited <+: files) : failuresOf visited outcomes <+: failuresOf files outcomes := by
  obtain ⟨others, rfl⟩ := first
  induction visited generalizing outcomes with
  | nil => exact List.nil_prefix
  | cons file visited ih =>
    cases outcomes with
    | nil => exact List.prefix_refl _
    | cons outcome outcomes =>
      simp only [failuresOf, List.cons_append, List.zip_cons_cons, List.flatMap_cons]
      exact (List.prefix_append_right_inj _).mpr (ih outcomes)

namespace Engine

variable {engine : Engine} {query : Query}

/-! ## Visits with a record -/

/-- Visits candidates until the cap is used up, and lists those it has looked at. -/
def visitLog (engine : Engine) (query : Query) :
    Report → List Candidate → Analysis (Report × List Candidate)
  | report, [] => return (report, [])
  | report, file :: files => do
    let remaining := query.maxResults - report.results.length
    if remaining = 0 then return ({ report with truncated := true }, [])
    let outcome ← engine.fileOutcome file.path query remaining
    let (last, visited) ← engine.visitLog query (report.add file outcome) files
    return (last, file :: visited)

/-- Searches a directory, and lists the files it has looked at. -/
def walkLog (engine : Engine) (root : String) (query : Query) :
    Analysis (Report × List Candidate) := do
  if !engine.files.isDirectory root then throw (.notFound root)
  let filter ← ExceptT.mk (pure (PathFilter.ofQuery query))
  engine.visitLog query {} (engine.candidates root query filter (engine.listing root))

/-- A visit with a record is the visit. -/
theorem visit_eq_visitLog (engine : Engine) (query : Query) (report : Report)
    (files : List Candidate) :
    engine.visit query report files = Prod.fst <$> engine.visitLog query report files := by
  induction files generalizing report with
  | nil => rfl
  | cons file files ih =>
    unfold visit visitLog
    simp only
    split
    · rfl
    · simp only [ih, map_eq_pure_bind, pure_bind, bind_assoc]

/-- A walk with a record is the walk. -/
theorem walk_eq_walkLog (engine : Engine) (root : String) (query : Query) :
    engine.walk root query = Prod.fst <$> engine.walkLog root query := by
  unfold walk walkLog
  split
  · rfl
  · simp only [map_bind, visit_eq_visitLog]

/-- A visit of candidates, with the outcome of each file that was looked at. -/
inductive Visits (engine : Engine) (query : Query) :
    Report → List Candidate → Caches → List (Candidate × FileOutcome) → Report → Caches → Prop where
  /-- No candidate is left. -/
  | done {report : Report} {caches : Caches} : Visits engine query report [] caches [] report caches
  /-- The cap is used up before the next candidate. -/
  | spent {report : Report} {file : Candidate} {files : List Candidate} {caches : Caches}
    (full : query.maxResults ≤ report.results.length) :
    Visits engine query report (file :: files) caches [] { report with truncated := true } caches
  /-- The next candidate is searched with what is left of the cap. -/
  | looked {report last : Report} {file : Candidate} {files : List Candidate}
    {outcome : FileOutcome} {visits : List (Candidate × FileOutcome)}
    {caches between after : Caches} (room : report.results.length < query.maxResults)
    (searched : (engine.fileOutcome file.path query
      (query.maxResults - report.results.length)).runFrom caches = (.ok outcome, between))
    (rest : Visits engine query (report.add file outcome) files between visits last after) :
    Visits engine query report (file :: files) caches ((file, outcome) :: visits) last after

/-- What a visit lists are the files that it has looked at. -/
theorem visitLog_eq_ok {report last : Report} {files visited : List Candidate}
    {caches after : Caches} :
    (engine.visitLog query report files).runFrom caches = (.ok (last, visited), after) ↔
      ∃ visits, engine.Visits query report files caches visits last after ∧
        visits.map Prod.fst = visited := by
  constructor
  · intro run
    induction files generalizing report caches visited with
    | nil =>
      cases run
      exact ⟨[], .done, rfl⟩
    | cons file files ih =>
      unfold visitLog at run
      simp only at run
      split at run
      · rename_i spent
        cases run
        exact ⟨[], .spent (Nat.sub_eq_zero_iff_le.mp spent), rfl⟩
      · rename_i positive
        obtain ⟨outcome, _, searched, rest⟩ := Analysis.runFrom_bind_eq_ok run
        obtain ⟨⟨_, _⟩, _, remainder, listed⟩ := Analysis.runFrom_bind_eq_ok rest
        cases listed
        obtain ⟨visits, later, same⟩ := ih remainder
        exact ⟨(file, outcome) :: visits, .looked (by omega) searched later,
          congrArg (file :: ·) same⟩
  · rintro ⟨visits, run, rfl⟩
    induction run with
    | done => rfl
    | spent full =>
      unfold visitLog
      rw [if_pos (Nat.sub_eq_zero_iff_le.mpr full)]
      rfl
    | looked room searched rest ih =>
      unfold visitLog
      rw [if_neg (by omega), Analysis.runFrom_bind_ok searched, Analysis.runFrom_bind_ok ih]
      rfl

/-- The outcomes of all candidates, each with all its matches. -/
def searchAll (engine : Engine) (query : Query) (files : List Candidate) :
    Analysis (List FileOutcome) :=
  files.mapM fun file => engine.completeOutcome file.path query

/-- What a visit makes of files whose complete outcomes are given. -/
structure Visited (query : Query) (report : Report) (files : List Candidate)
    (outcomes : List FileOutcome) (last : Report) (visited : List Candidate) : Prop where
  first : visited <+: files
  results : last.results = report.results ++
    (outcomes.flatMap FileOutcome.results).take (query.maxResults - report.results.length)
  failures : last.failures = report.failures ++ failuresOf visited outcomes
  all : last.results.length < query.maxResults → visited = files

/-- One more file in front of a visit. -/
theorem Visited.cons {report last : Report} {files visited : List Candidate}
    {outcomes : List FileOutcome} {file : Candidate} {outcome : FileOutcome}
    (rest : Visited query
      (report.add file (outcome.take (query.maxResults - report.results.length)))
      files outcomes last visited) :
    Visited query report (file :: files) (outcome :: outcomes) last (file :: visited) where
  first := List.cons_prefix_cons.mpr ⟨rfl, rest.first⟩
  results := by
    have budget : query.maxResults - (report.add file
        (outcome.take (query.maxResults - report.results.length))).results.length =
          query.maxResults - report.results.length - outcome.results.length := by
      simp only [Report.results_add, FileOutcome.results_take, List.length_append,
        List.length_take]
      omega
    rw [rest.results, budget, Report.results_add, FileOutcome.results_take, List.append_assoc,
      List.flatMap_cons, List.take_append]
  failures := by
    rw [rest.failures, Report.failures_add, FileOutcome.failures_take, List.append_assoc]
    rfl
  all small := by rw [rest.all small]

/-- A visit from an empty report finds the first matches. -/
theorem Visited.results_take {files visited : List Candidate} {outcomes : List FileOutcome}
    {last : Report} (visit : Visited query {} files outcomes last visited) :
    last.results = (outcomes.flatMap FileOutcome.results).take query.maxResults := by
  rw [visit.results]
  rfl

/-- A visit from an empty report that stays below its cap finds all matches. -/
theorem Visited.results_all {files visited : List Candidate} {outcomes : List FileOutcome}
    {last : Report} (visit : Visited query {} files outcomes last visited)
    (ample : last.results.length < query.maxResults) :
    last.results = outcomes.flatMap FileOutcome.results := by
  have short := ample
  rw [visit.results_take, List.length_take] at short
  rw [visit.results_take, List.take_of_length_le (by omega)]

/-- When every candidate can be searched completely, a visit with any cap succeeds, and
finds the first matches. -/
theorem visitLog_capped {files : List Candidate} {outcomes : List FileOutcome}
    {caches after : Caches} (report : Report)
    (complete : (engine.searchAll query files).runFrom caches = (.ok outcomes, after)) :
    ∃ last visited left,
      (engine.visitLog query report files).runFrom caches = (.ok (last, visited), left) ∧
        Visited query report files outcomes last visited := by
  induction files generalizing report outcomes caches with
  | nil =>
    cases complete
    exact ⟨report, [], _, rfl, List.prefix_refl _, by simp, by simp [failuresOf], fun _ => rfl⟩
  | cons file files ih =>
    unfold searchAll at complete
    rw [List.mapM_cons] at complete
    obtain ⟨outcome, between, searched, rest⟩ := Analysis.runFrom_bind_eq_ok complete
    obtain ⟨others, later, remainder, listed⟩ := Analysis.runFrom_bind_eq_ok rest
    cases listed
    unfold visitLog
    simp only
    split
    · rename_i spent
      refine ⟨_, [], caches, rfl, List.nil_prefix, ?_, (List.append_nil _).symm, ?_⟩
      · rw [spent, List.take_zero, List.append_nil]
      · intro small
        simp only at small
        omega
    · rename_i positive
      rw [fileOutcome_eq engine file.path query positive, bind_map_left,
        Analysis.runFrom_bind_ok searched]
      obtain ⟨last, visited, left, run, holds⟩ := ih
        (report.add file (outcome.take (query.maxResults - report.results.length))) remainder
      refine ⟨last, file :: visited, left, ?_, holds.cons⟩
      rw [Analysis.runFrom_bind_ok run]
      rfl

/-- A visit looks at every candidate, unless the cap stops it, which the report says. -/
theorem visitLog_stops {files : List Candidate} {report last : Report}
    {visited : List Candidate} {caches after : Caches}
    (run : (engine.visitLog query report files).runFrom caches = (.ok (last, visited), after)) :
    visited = files ∨ (last.truncated = true ∧ query.maxResults ≤ last.results.length) := by
  obtain ⟨visits, steps, rfl⟩ := visitLog_eq_ok.mp run
  clear run
  induction steps with
  | done => exact .inl rfl
  | spent full => exact .inr ⟨rfl, full⟩
  | @looked _ _ file _ _ _ _ _ _ _ _ _ ih => exact ih.imp_left (congrArg (file :: ·))

/-- A visit that looks at every candidate searches each completely but the last, where the
cap may cut: what the earlier ones hold leaves room below the cap. -/
theorem visitLog_all {files : List Candidate} {report last : Report}
    {visited : List Candidate} {caches after : Caches}
    (run : (engine.visitLog query report files).runFrom caches = (.ok (last, visited), after))
    (all : visited = files) :
    ∃ outcomes, (engine.searchAll query files).runFrom caches = (.ok outcomes, after) ∧
      (outcomes ≠ [] → report.results.length +
        (outcomes.dropLast.flatMap FileOutcome.results).length < query.maxResults) := by
  obtain ⟨visits, steps, rfl⟩ := visitLog_eq_ok.mp run
  clear run
  induction steps with
  | done => exact ⟨[], rfl, fun some => absurd rfl some⟩
  | spent => cases all
  | @looked report _ file _ _ _ _ _ _ room searched _ ih =>
    obtain ⟨outcome, found, rfl⟩ := exists_completeOutcome (by omega) searched
    obtain ⟨outcomes, complete, left⟩ := ih (List.cons.inj all).2
    refine ⟨outcome :: outcomes, ?_, fun _ => ?_⟩
    · unfold searchAll at complete ⊢
      rw [List.mapM_cons, Analysis.runFrom_bind_ok found, Analysis.runFrom_bind_ok complete]
      rfl
    · cases outcomes with
      | nil =>
        simp only [List.dropLast_singleton, List.flatMap_nil, List.length_nil]
        omega
      | cons next outcomes =>
        -- The next file was looked at, so this one was not cut.
        have fits := left (by simp)
        simp only [Report.results_add, FileOutcome.results_take, List.length_append,
          List.length_take] at fits
        simp only [List.dropLast_cons_cons, List.flatMap_cons, List.length_append]
        omega

/-- A visit that stays below its cap has searched every candidate completely. -/
theorem visitLog_complete {files : List Candidate} {report last : Report}
    {visited : List Candidate} {caches after : Caches}
    (run : (engine.visitLog query report files).runFrom caches = (.ok (last, visited), after))
    (ample : last.results.length < query.maxResults) :
    ∃ outcomes, (engine.searchAll query files).runFrom caches = (.ok outcomes, after) := by
  obtain all | ⟨_, spent⟩ := visitLog_stops run
  · obtain ⟨outcomes, complete, _⟩ := visitLog_all run all
    exact ⟨outcomes, complete⟩
  · omega

/-! ## Directories -/

/-- A walk fails on a root that is no directory and on globs that cannot be read, and
else visits its candidates. -/
theorem walkLog_runFrom (engine : Engine) (root : String) (query : Query) (caches : Caches) :
    (engine.walkLog root query).runFrom caches =
      match engine.files.isDirectory root, PathFilter.ofQuery query with
      | false, _ => (.error (.notFound root), caches)
      | true, .error error => (.error error, caches)
      | true, .ok filter =>
        (engine.visitLog query {}
          (engine.candidates root query filter (engine.listing root))).runFrom caches := by
  unfold walkLog
  cases engine.files.isDirectory root with
  | false => rfl
  | true => cases PathFilter.ofQuery query <;> rfl

/-- A walk of a directory with readable globs visits its candidates. -/
theorem walkLog_of_directory {root : String} {filter : PathFilter}
    (directory : engine.files.isDirectory root = true)
    (read : PathFilter.ofQuery query = .ok filter) (caches : Caches) :
    (engine.walkLog root query).runFrom caches =
      (engine.visitLog query {}
        (engine.candidates root query filter (engine.listing root))).runFrom caches := by
  rw [walkLog_runFrom, directory, read]

/-- A walk that succeeds has visited the candidates of a directory. -/
theorem walk_eq_ok {root : String} {caches : Caches} {report : Report}
    (walked : ((engine.walk root query).runFrom caches).1 = .ok report) :
    engine.files.isDirectory root = true ∧
      ∃ filter visited after, PathFilter.ofQuery query = .ok filter ∧
        (engine.visitLog query {}
          (engine.candidates root query filter (engine.listing root))).runFrom caches =
            (.ok (report, visited), after) := by
  have mapped : (Prod.fst <$> engine.walkLog root query).runFrom caches =
      (.ok report, ((engine.walk root query).runFrom caches).2) := by
    rw [← walk_eq_walkLog, ← walked]
  obtain ⟨⟨last, visited⟩, run, same⟩ := Analysis.runFrom_map_ok mapped
  cases same
  rw [walkLog_runFrom] at run
  cases directory : engine.files.isDirectory root with
  | false => simp [directory] at run
  | true =>
    cases read : PathFilter.ofQuery query with
    | error error => simp [directory, read] at run
    | ok filter =>
      simp only [directory, read] at run
      exact ⟨rfl, filter, visited, _, rfl, run⟩

/-- When every candidate can be searched completely, a walk succeeds whatever its cap. -/
theorem walk_of_complete {root : String} {filter : PathFilter} {outcomes : List FileOutcome}
    {caches after : Caches} (directory : engine.files.isDirectory root = true)
    (read : PathFilter.ofQuery query = .ok filter)
    (complete : (engine.searchAll query
      (engine.candidates root query filter (engine.listing root))).runFrom caches =
        (.ok outcomes, after)) :
    ∃ report visited, ((engine.walk root query).runFrom caches).1 = .ok report ∧
      ((engine.walkLog root query).runFrom caches).1 = .ok (report, visited) ∧
      Visited query {} (engine.candidates root query filter (engine.listing root)) outcomes
        report visited := by
  obtain ⟨report, visited, left, run, holds⟩ := visitLog_capped {} complete
  have logged := walkLog_of_directory directory read caches
  rw [run] at logged
  refine ⟨report, visited, ?_, ?_, holds⟩
  · rw [walk_eq_walkLog, Analysis.runFrom_map, logged]
    rfl
  · rw [logged]

/-- Candidates are visited in the order of their paths from the root. -/
theorem candidates_ordered (engine : Engine) (root : String) (query : Query)
    (filter : PathFilter) (listed : List (List String)) :
    (engine.candidates root query filter listed).Pairwise
      fun first second => first.relative ≤ second.relative := by
  have transitive (a b c : Candidate) (first : a.precedes b = true)
      (second : b.precedes c = true) : a.precedes c = true := by
    simp only [Candidate.precedes, decide_eq_true_eq] at first second ⊢
    exact String.le_trans first second
  have total (a b : Candidate) : (a.precedes b || b.precedes a) = true := by
    simp only [Candidate.precedes, Bool.or_eq_true, decide_eq_true_eq]
    exact String.le_total a.relative b.relative
  have sorted := List.pairwise_mergeSort transitive total
    (((listed.map (Candidate.ofNames root)).filter fun file => filter.accepts file.relative).filter
      fun file => (engine.resolveLanguage? file.path query).isSome)
  exact sorted.imp of_decide_eq_true

/-- A walk that stays below its cap finds, file by file in the order of the paths, all
matches of every candidate. The same walk with any other cap succeeds, finds exactly the
first matches of those, looks at some first candidates, and meets their failures. -/
theorem walk_capped (engine : Engine) (root : String) (query : Query) (caches : Caches)
    (report : Report) (walked : ((engine.walk root query).runFrom caches).1 = .ok report)
    (ample : report.results.length < query.maxResults) :
    ∃ filter outcomes, PathFilter.ofQuery query = .ok filter ∧
      let files := engine.candidates root query filter (engine.listing root)
      files.Pairwise (fun first second => first.relative ≤ second.relative) ∧
      ((engine.searchAll query files).runFrom caches).1 = .ok outcomes ∧
      report.results = outcomes.flatMap FileOutcome.results ∧
      ∀ cap, ∃ short visited,
        ((engine.walk root { query with maxResults := cap }).runFrom caches).1 = .ok short ∧
        ((engine.walkLog root { query with maxResults := cap }).runFrom caches).1 =
          .ok (short, visited) ∧
        short.results = report.results.take cap ∧
        visited <+: files ∧
        short.failures <+: report.failures := by
  obtain ⟨directory, filter, all, after, read, run⟩ := walk_eq_ok walked
  obtain ⟨outcomes, complete⟩ := visitLog_complete run ample
  obtain ⟨last, visited, again, _, whole⟩ := walk_of_complete directory read complete
  cases walked.symm.trans again
  have results := whole.results_all ample
  have failures : report.failures = failuresOf
      (engine.candidates root query filter (engine.listing root)) outcomes := by
    rw [whole.failures, whole.all ample, List.nil_append]
  refine ⟨filter, outcomes, read, candidates_ordered .., ?_, results, ?_⟩
  · rw [complete]
  · intro cap
    -- Neither the globs nor the candidates nor their complete outcomes refer to the cap.
    have readable : PathFilter.ofQuery { query with maxResults := cap } = .ok filter := read
    have same : (engine.searchAll { query with maxResults := cap }
        (engine.candidates root { query with maxResults := cap } filter
          (engine.listing root))).runFrom caches = (.ok outcomes, after) := complete
    obtain ⟨short, looked, capped, logged, holds⟩ := walk_of_complete directory readable same
    refine ⟨short, looked, capped, logged, ?_, holds.first, ?_⟩
    · rw [holds.results_take, results]
    · rw [holds.failures, failures, List.nil_append]
      exact failuresOf_prefix outcomes holds.first

/-- An engine for a directory with two files that hold one call each. -/
def twoCalls : Engine where
  config := {}
  analyzer := { parser :=
    { tree? := fun _ _ => some (.mk "call" true "" 0 3 []), knowsKind := fun _ _ => true } }
  files := { root := .directory [("a.py", .file "f()".toUTF8), ("b.py", .file "g()".toUTF8)] }
  source path _ := if path = "/a.py" then .ok "f()".toUTF8 else .ok "g()".toUTF8

/-- A search for all calls. -/
def anyCall : Query := { kind := .functionCalls, target := "()", scope := "/" }

/-- A walk of the directory visits its two files. -/
theorem twoCalls_walk (cap : Nat) :
    (twoCalls.walk "/" { anyCall with maxResults := cap }).runFrom twoCalls.freshCaches =
      (twoCalls.visit { anyCall with maxResults := cap } {}
        [⟨"a.py", "/a.py"⟩, ⟨"b.py", "/b.py"⟩]).runFrom twoCalls.freshCaches := by
  have resolved : twoCalls.files.resolve "/" = .ok [] := by
    change FileSystem.resolveNames twoCalls.files .present 40 [] ["", ""] = .ok []
    rw [FileSystem.resolveNames, FileSystem.resolveNames, FileSystem.resolveNames]
    rfl
  have directory : twoCalls.files.isDirectory "/" = true := by
    unfold FileSystem.isDirectory
    rw [resolved]
    rfl
  have read : PathFilter.ofQuery { anyCall with maxResults := cap } = .ok ⟨[], []⟩ := rfl
  have files : twoCalls.candidates "/" { anyCall with maxResults := cap } ⟨[], []⟩
      (twoCalls.listing "/") = [⟨"a.py", "/a.py"⟩, ⟨"b.py", "/b.py"⟩] := by
    -- The candidates do not depend on the cap.
    change twoCalls.candidates "/" anyCall _ _ = _
    unfold candidates listing
    rw [resolved]
    exact List.mergeSort_of_pairwise (by decide)
  rw [walk_eq_walkLog, visit_eq_visitLog, Analysis.runFrom_map, Analysis.runFrom_map,
    walkLog_of_directory directory read, files]

/-- A walk with room for both calls finds them, and with room for one finds the first. -/
theorem walk_capped_twoCalls :
    ∃ report,
      ((twoCalls.walk "/" anyCall).runFrom twoCalls.freshCaches).1 = .ok report ∧
      report.results.map Match.filePath = ["/a.py", "/b.py"] ∧
      report.results.length < anyCall.maxResults ∧
      ∃ short, ((twoCalls.walk "/" { anyCall with maxResults := 1 }).runFrom
          twoCalls.freshCaches).1 = .ok short ∧
        short.results = report.results.take 1 := by
  have found : (((twoCalls.visit anyCall {} [⟨"a.py", "/a.py"⟩, ⟨"b.py", "/b.py"⟩]).runFrom
      twoCalls.freshCaches).1.toOption.map fun report =>
        report.results.map Match.filePath) = some ["/a.py", "/b.py"] := by decide +kernel
  have visits : (twoCalls.walk "/" anyCall).runFrom twoCalls.freshCaches = _ :=
    twoCalls_walk anyCall.maxResults
  rw [← visits] at found
  cases walked : ((twoCalls.walk "/" anyCall).runFrom twoCalls.freshCaches).1 with
  | error error =>
    rw [walked] at found
    cases found
  | ok report =>
    rw [walked] at found
    have paths : report.results.map Match.filePath = ["/a.py", "/b.py"] := Option.some.inj found
    have two : report.results.length = 2 := by
      rw [← List.length_map (f := Match.filePath), paths]
      rfl
    have ample : report.results.length < anyCall.maxResults := by
      rw [two]
      decide
    obtain ⟨_, _, _, _, _, _, capped⟩ :=
      walk_capped twoCalls "/" anyCall twoCalls.freshCaches report walked ample
    obtain ⟨short, _, again, _, first, _⟩ := capped 1
    exact ⟨report, rfl, paths, ample, short, again, first⟩

end Engine

end CodeAtlas
