import CodeAtlas.Proofs.Engine.Cap

/-!
# The counters of a report

A report counts the files that were searched and skipped and lists those that failed, so
together they number the files that were looked at. A walk looks at the candidates one after
the other until the cap is used up, and says so only when some are left. Each fact is kept by
one step of a visit and so holds of the whole.
-/

namespace CodeAtlas

/-! ## Outcomes and reports -/

/-- Whether a file was searched. -/
def FileOutcome.isSearched : FileOutcome → Bool
  | .searched _ => true
  | _ => false

/-- Whether a file was skipped. -/
def FileOutcome.isSkipped : FileOutcome → Bool
  | .skipped _ => true
  | _ => false

/-- A file is searched or skipped or fails. -/
theorem FileOutcome.counts_once (file : Candidate) (outcome : FileOutcome) :
    (if outcome.isSearched then 1 else 0) + (if outcome.isSkipped then 1 else 0) +
      (outcome.failures file).length = 1 := by
  cases outcome <;> rfl

/-- An outcome that is not longer than a cut is not cut. -/
theorem FileOutcome.take_of_length_le {outcome : FileOutcome} {cap : Nat}
    (short : outcome.results.length ≤ cap) : outcome.take cap = outcome := by
  cases outcome with
  | searched found => exact congrArg FileOutcome.searched (List.take_of_length_le short)
  | skipped reason => rfl
  | failed reason => rfl

/-- A file that was searched is counted as searched. -/
theorem Report.filesSearched_add (report : Report) (file : Candidate) (outcome : FileOutcome) :
    (report.add file outcome).filesSearched =
      report.filesSearched + (if outcome.isSearched then 1 else 0) := by
  cases outcome <;> rfl

/-- A file that was skipped is counted as skipped. -/
theorem Report.filesSkipped_add (report : Report) (file : Candidate) (outcome : FileOutcome) :
    (report.add file outcome).filesSkipped =
      report.filesSkipped + (if outcome.isSkipped then 1 else 0) := by
  cases outcome <;> rfl

/-- The outcome of a file does not tell whether others are left. -/
theorem Report.truncated_add (report : Report) (file : Candidate) (outcome : FileOutcome) :
    (report.add file outcome).truncated = report.truncated := by
  cases outcome <;> rfl

/-- What a report says of the files that were looked at: how many were searched and how many
skipped, which failed, and what was found. -/
structure Report.Counts (report : Report) (visits : List (Candidate × FileOutcome)) : Prop where
  results : report.results = visits.flatMap fun visit => visit.2.results
  searched : report.filesSearched = visits.countP fun visit => visit.2.isSearched
  skipped : report.filesSkipped = visits.countP fun visit => visit.2.isSkipped
  failures : report.failures = visits.flatMap fun visit => visit.2.failures visit.1

/-- A new report counts nothing. -/
theorem Report.counts_nil : Report.Counts {} [] where
  results := rfl
  searched := rfl
  skipped := rfl
  failures := rfl

/-- A report with one more outcome counts one more file. -/
theorem Report.Counts.add {report : Report} {visits : List (Candidate × FileOutcome)}
    (counts : report.Counts visits) (file : Candidate) (outcome : FileOutcome) :
    (report.add file outcome).Counts (visits ++ [(file, outcome)]) where
  results := by rw [Report.results_add, counts.results, List.flatMap_append]; simp
  searched := by
    rw [Report.filesSearched_add, counts.searched, List.countP_append, List.countP_singleton]
  skipped := by
    rw [Report.filesSkipped_add, counts.skipped, List.countP_append, List.countP_singleton]
  failures := by rw [Report.failures_add, counts.failures, List.flatMap_append]; simp

/-- The counters of a report number the files that were looked at. -/
theorem Report.Counts.total {report : Report} {visits : List (Candidate × FileOutcome)}
    (counts : report.Counts visits) :
    report.filesSearched + report.filesSkipped + report.failures.length = visits.length := by
  rw [counts.searched, counts.skipped, counts.failures]
  clear counts
  induction visits with
  | nil => rfl
  | cons visit visits ih =>
    have one := visit.2.counts_once visit.1
    simp only [List.countP_cons, List.flatMap_cons, List.length_append, List.length_cons]
    omega

namespace Engine

variable {engine : Engine} {query : Query} {report last : Report} {files : List Candidate}
  {visits before : List (Candidate × FileOutcome)} {caches after : Caches}

/-! ## Visits -/

/-- The files that a visit looks at are the first candidates. -/
theorem Visits.first (run : engine.Visits query report files caches visits last after) :
    visits.map Prod.fst <+: files := by
  induction run with
  | done => exact List.nil_prefix
  | spent => exact List.nil_prefix
  | looked _ _ _ ih => exact List.cons_prefix_cons.mpr ⟨rfl, ih⟩

/-- Reports count right to the end of a visit. -/
theorem Visits.counts (run : engine.Visits query report files caches visits last after)
    (counts : report.Counts before) : last.Counts (before ++ visits) := by
  induction run generalizing before with
  | done => rwa [List.append_nil]
  | spent =>
    rw [List.append_nil]
    exact ⟨counts.results, counts.searched, counts.skipped, counts.failures⟩
  | @looked _ _ file _ outcome _ _ _ _ _ _ _ ih =>
    have step := ih (counts.add file outcome)
    rwa [List.append_assoc] at step

/-- A visit finds no more than the cap allows. -/
theorem Visits.length_le (run : engine.Visits query report files caches visits last after)
    (fits : report.results.length ≤ query.maxResults) :
    last.results.length ≤ query.maxResults := by
  induction run with
  | done => exact fits
  | spent => exact fits
  | looked room searched _ ih =>
    have found := length_fileOutcome searched
    apply ih
    rw [Report.results_add, List.length_append]
    omega

/-- A visit is said to be truncated when it stops before the last candidate. -/
theorem Visits.truncated_iff (run : engine.Visits query report files caches visits last after)
    (whole : report.truncated = false) :
    last.truncated = true ↔ visits.length < files.length := by
  induction run with
  | done => simp [whole]
  | spent => simp
  | looked _ _ _ ih =>
    rw [ih (by rw [Report.truncated_add, whole]), List.length_cons, List.length_cons]
    omega

/-- A visit that is said to be truncated has used up the cap. -/
theorem Visits.full (run : engine.Visits query report files caches visits last after)
    (whole : report.truncated = false) (truncated : last.truncated = true) :
    query.maxResults ≤ last.results.length := by
  induction run with
  | done => cases whole.symm.trans truncated
  | spent full => exact full
  | looked _ _ _ ih => exact ih (by rw [Report.truncated_add, whole]) truncated

/-- The matches that a report has are kept. -/
theorem Visits.length_mono (run : engine.Visits query report files caches visits last after) :
    report.results.length ≤ last.results.length := by
  induction run with
  | done => exact Nat.le_refl _
  | spent => exact Nat.le_refl _
  | looked _ _ _ ih =>
    rw [Report.results_add, List.length_append] at ih
    omega

/-- A visit that stays below the cap finds in every candidate all that a search without a cap
finds. -/
theorem Visits.complete (run : engine.Visits query report files caches visits last after)
    (ample : last.results.length < query.maxResults) :
    (engine.searchAll query files).runFrom caches = (.ok (visits.map Prod.snd), after) := by
  induction run with
  | done => rfl
  | spent full => exact absurd full (Nat.not_le_of_gt ample)
  | @looked report _ file _ _ _ _ _ _ room searched rest ih =>
    obtain ⟨whole, found, rfl⟩ := exists_completeOutcome (by omega) searched
    have short := rest.length_mono
    simp only [Report.results_add, FileOutcome.results_take, List.length_append,
      List.length_take] at short
    have uncut : whole.take (query.maxResults - report.results.length) = whole :=
      FileOutcome.take_of_length_le (by omega)
    have others := ih ample
    unfold searchAll at others ⊢
    rw [List.mapM_cons, Analysis.runFrom_bind_ok found, Analysis.runFrom_bind_ok others,
      List.map_cons, uncut]
    rfl

/-! ## Directories -/

/-- The counters of a report are exact. A walk that succeeds has looked at the first
candidates, at each with what was left of the cap. Its report has what they hold, no more
than the cap allows, and counts how many were searched and how many skipped and lists which
failed, which together are as many as were looked at. It is said to be truncated exactly when
some candidate is left, and then it has as many matches as the cap allows. With fewer matches
every candidate was looked at, and each was found to hold all that a search of it without a
cap finds. -/
theorem walk_counted (engine : Engine) (root : String) (query : Query) (caches : Caches)
    (report : Report) (walked : ((engine.walk root query).runFrom caches).1 = .ok report) :
    ∃ filter visits after, PathFilter.ofQuery query = .ok filter ∧
      let files := engine.candidates root query filter (engine.listing root)
      engine.Visits query {} files caches visits report after ∧
      visits.map Prod.fst <+: files ∧
      report.Counts visits ∧
      report.results.length ≤ query.maxResults ∧
      report.filesSearched + report.filesSkipped + report.failures.length = visits.length ∧
      (report.truncated = true ↔ visits.length < files.length) ∧
      (report.truncated = true → report.results.length = query.maxResults) ∧
      (report.results.length < query.maxResults →
        visits.map Prod.fst = files ∧
        ((engine.searchAll query files).runFrom caches).1 = .ok (visits.map Prod.snd)) := by
  obtain ⟨_, filter, visited, after, read, run⟩ := walk_eq_ok walked
  obtain ⟨visits, steps, rfl⟩ := visitLog_eq_ok.mp run
  have counts : report.Counts visits := steps.counts Report.counts_nil
  have fits : report.results.length ≤ query.maxResults := steps.length_le (Nat.zero_le _)
  refine ⟨filter, visits, after, read, steps, steps.first, counts, fits, counts.total,
    steps.truncated_iff rfl, fun truncated => ?_, fun ample => ⟨?_, ?_⟩⟩
  · exact Nat.le_antisymm fits (steps.full rfl truncated)
  · obtain all | ⟨_, full⟩ := visitLog_stops run
    · exact all
    · exact absurd full (Nat.not_le_of_gt ample)
  · rw [steps.complete ample]

/-- With room for one of two calls in two files, a walk looks at the first file only, counts
it, and says that it stopped there. -/
theorem walk_counted_cut :
    ∃ report,
      ((twoCalls.walk "/" { anyCall with maxResults := 1 }).runFrom twoCalls.freshCaches).1 =
        .ok report ∧
      report.truncated = true ∧ report.results.length = 1 ∧
      ∃ visits : List (Candidate × FileOutcome),
        report.filesSearched + report.filesSkipped + report.failures.length = visits.length ∧
        visits.length < (twoCalls.candidates "/" { anyCall with maxResults := 1 } ⟨[], []⟩
          (twoCalls.listing "/")).length := by
  have stopped : ((twoCalls.visit { anyCall with maxResults := 1 } {}
      [⟨"a.py", "/a.py"⟩, ⟨"b.py", "/b.py"⟩]).runFrom twoCalls.freshCaches).1.toOption.map
        Report.truncated = some true := by decide +kernel
  rw [← twoCalls_walk] at stopped
  cases walked : ((twoCalls.walk "/" { anyCall with maxResults := 1 }).runFrom
      twoCalls.freshCaches).1 with
  | error error =>
    rw [walked] at stopped
    cases stopped
  | ok report =>
    rw [walked] at stopped
    have truncated : report.truncated = true := Option.some.inj stopped
    obtain ⟨filter, visits, _, read, _, _, _, _, total, left, full, _⟩ :=
      walk_counted twoCalls "/" { anyCall with maxResults := 1 } twoCalls.freshCaches report
        walked
    cases read
    exact ⟨report, rfl, truncated, full truncated, visits, total, left.mp truncated⟩

end Engine

end CodeAtlas
