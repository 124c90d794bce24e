import CodeAtlas.Proofs.Engine.Cap
import CodeAtlas.Proofs.Engine.Steady

/-!
# Outcomes that do not depend on the caches

What a file's complete search gives is the same from all sound caches. So the outcomes of the
files that one search has looked at are known to every other search, and the matches and
failures of some of the files are those of all, filtered.
-/

namespace CodeAtlas.Engine

open Caches

variable {engine : Engine} {known : List Source} {query : Query}
  {files : List Candidate} {outcomes : List FileOutcome} {caches after : Caches}

/-- What the complete search of a file gives from all sound caches, which it leaves sound. -/
def Gives (engine : Engine) (known : List Source) (query : Query) (file : Candidate)
    (outcome : FileOutcome) : Prop :=
  Yields engine.analyzer known (engine.completeOutcome file.path query).run (.ok outcome)

/-- A file gives its outcome from any sound caches. -/
theorem Gives.runFrom {file : Candidate} {outcome : FileOutcome}
    (gives : engine.Gives known query file outcome) (sound : caches.Sound engine.analyzer known) :
    ∃ after, (engine.completeOutcome file.path query).runFrom caches = (.ok outcome, after) ∧
      after.Sound engine.analyzer known := by
  obtain ⟨same, kept⟩ := gives caches sound
  exact ⟨_, Prod.ext same rfl, kept⟩

/-! ## Searches of many files -/

/-- A complete search of files finds what each gives, if their sources are known. -/
theorem gives_of_searchAll (apart : Source.Apart known) {cap : Nat} (positive : cap ≠ 0)
    (listed : ∀ file ∈ files, engine.fileSources file.path query cap ⊆ known)
    (sound : caches.Sound engine.analyzer known)
    (run : (engine.searchAll query files).runFrom caches = (.ok outcomes, after)) :
    List.Forall₂ (engine.Gives known query) files outcomes := by
  induction files generalizing caches outcomes with
  | nil =>
    cases run
    exact .nil
  | cons file files ih =>
    obtain ⟨here, later⟩ := List.forall_mem_cons.mp listed
    unfold searchAll at run
    rw [List.mapM_cons] at run
    obtain ⟨outcome, between, searched, rest⟩ := Analysis.runFrom_bind_eq_ok run
    obtain ⟨others, _, remainder, last⟩ := Analysis.runFrom_bind_eq_ok rest
    cases last
    have yields := (completeOutcome_steady apart positive here).yields sound
    have kept := (yields caches sound).2
    change (StateT.run (ExceptT.run _) _) = _ at searched
    rw [searched] at yields kept
    exact .cons yields (ih later kept remainder)

/-- Files that each give an outcome can be searched from all sound caches. -/
theorem searchAll_of_gives (given : List.Forall₂ (engine.Gives known query) files outcomes)
    (sound : caches.Sound engine.analyzer known) :
    ∃ after, (engine.searchAll query files).runFrom caches = (.ok outcomes, after) := by
  induction given generalizing caches with
  | nil => exact ⟨caches, rfl⟩
  | cons gives given ih =>
    obtain ⟨between, found, kept⟩ := gives.runFrom sound
    obtain ⟨after, rest⟩ := ih kept
    refine ⟨after, ?_⟩
    unfold searchAll at rest ⊢
    rw [List.mapM_cons, Analysis.runFrom_bind_ok found, Analysis.runFrom_bind_ok rest]
    rfl

/-- A visit that stays below its cap hashes the sources of every file. -/
theorem fileSources_subset_visitSources {report last : Report} {visited : List Candidate}
    (run : (engine.visitLog query report files).runFrom caches = (.ok (last, visited), after))
    (ample : last.results.length < query.maxResults) {file : Candidate} (member : file ∈ files) :
    engine.fileSources file.path query query.maxResults ⊆
      engine.visitSources query report files caches := by
  obtain ⟨visits, steps, rfl⟩ := visitLog_eq_ok.mp run
  clear run
  induction steps with
  | done => cases member
  | spent full => exact absurd full (Nat.not_le_of_gt ample)
  | @looked report _ first _ _ _ _ _ _ room searched _ ih =>
    have positive : query.maxResults - report.results.length ≠ 0 := by omega
    unfold visitSources
    simp only
    rw [if_neg positive, searched]
    obtain rfl | later := List.mem_cons.mp member
    · rw [fileSources_congr engine file.path query (by omega) positive]
      exact List.subset_append_left _ _
    · exact List.subset_append_of_subset_right _ (ih ample later)

/-- A walk that stays below its cap knows the outcome of every candidate. Its matches and
failures are theirs. -/
theorem exists_gives_of_walk (apart : Source.Apart known) {root : String} {report : Report}
    (sound : caches.Sound engine.analyzer known)
    (listed : engine.walkSources root query caches ⊆ known)
    (walked : ((engine.walk root query).runFrom caches).1 = .ok report)
    (ample : report.results.length < query.maxResults) :
    ∃ filter outcomes, PathFilter.ofQuery query = .ok filter ∧
      let files := engine.candidates root query filter (engine.listing root)
      List.Forall₂ (engine.Gives known query) files outcomes ∧
      report.results = outcomes.flatMap FileOutcome.results ∧
      report.failures = failuresOf files outcomes := by
  obtain ⟨directory, filter, all, after, read, run⟩ := walk_eq_ok walked
  obtain ⟨outcomes, complete⟩ := visitLog_complete run ample
  obtain ⟨last, visited, again, _, whole⟩ := walk_of_complete directory read complete
  cases walked.symm.trans again
  refine ⟨filter, outcomes, read, ?_, whole.results_all ample, ?_⟩
  · simp only [walkSources, directory, read] at listed
    refine gives_of_searchAll apart (Nat.ne_zero_of_lt ample) (fun file member => ?_) sound complete
    exact List.Subset.trans (fileSources_subset_visitSources run ample member) listed
  · rw [whole.failures, whole.all ample]
    rfl

/-- A walk of files that each give an outcome, with a cap above the number of their matches,
succeeds from all sound caches and has the matches and failures that they give. -/
theorem walk_of_gives {root : String} {filter : PathFilter} {cap : Nat}
    (directory : engine.files.isDirectory root = true)
    (read : PathFilter.ofQuery query = .ok filter)
    (given : List.Forall₂ (engine.Gives known query)
      (engine.candidates root query filter (engine.listing root)) outcomes)
    (sound : caches.Sound engine.analyzer known)
    (ample : (outcomes.flatMap FileOutcome.results).length < cap) :
    ∃ report, ((engine.walk root { query with maxResults := cap }).runFrom caches).1 =
        .ok report ∧
      report.results = outcomes.flatMap FileOutcome.results ∧
      report.failures =
        failuresOf (engine.candidates root query filter (engine.listing root)) outcomes := by
  obtain ⟨after, complete⟩ := searchAll_of_gives given sound
  -- Neither the globs nor the candidates nor their complete outcomes refer to the cap.
  have readable : PathFilter.ofQuery { query with maxResults := cap } = .ok filter := read
  have same : (engine.searchAll { query with maxResults := cap }
      (engine.candidates root { query with maxResults := cap } filter
        (engine.listing root))).runFrom caches = (.ok outcomes, after) := complete
  obtain ⟨report, visited, walked, _, whole⟩ := walk_of_complete directory readable same
  have results : report.results = outcomes.flatMap FileOutcome.results := by
    rw [whole.results_take, List.take_of_length_le (Nat.le_of_lt ample)]
  refine ⟨report, walked, results, ?_⟩
  rw [whole.failures, whole.all (by rwa [results])]
  rfl

/-! ## Some of the files -/

/-- The matches that a file gives stand in it. -/
theorem Gives.filePath {file : Candidate} {outcome : FileOutcome}
    (gives : engine.Gives known query file outcome) :
    ∀ hit ∈ outcome.results, hit.filePath = file.path := by
  obtain ⟨_, found, -⟩ := gives.runFrom (fresh_sound engine.analyzer known 0)
  exact filePath_of_completeOutcome found

/-- The failure that a file gives has its path from the root. -/
theorem path_of_mem_failures {file : Candidate} {outcome : FileOutcome} :
    ∀ failure ∈ outcome.failures file, failure.path = file.relative := by
  cases outcome <;> simp [FileOutcome.failures]

/-- Of what belongs to one file, all is kept or nothing. -/
theorem filter_of_constant {α : Type} {listed : List α} {keep : α → Bool} {kept : Bool}
    (constant : ∀ item ∈ listed, keep item = kept) :
    listed.filter keep = if kept then listed else [] := by
  cases kept with
  | true => exact List.filter_eq_self.mpr constant
  | false => exact List.filter_eq_nil_iff.mpr fun item member => by simp [constant item member]

/-- Some of the files give the matches and the failures of all files that belong to them. -/
theorem exists_gives_filter {keep : Candidate → Bool} (below inside : String → Bool)
    (hits : ∀ file ∈ files, below file.path = keep file)
    (failures : ∀ file ∈ files, inside file.relative = keep file)
    (given : List.Forall₂ (engine.Gives known query) files outcomes) :
    ∃ kept, List.Forall₂ (engine.Gives known query) (files.filter keep) kept ∧
      kept.flatMap FileOutcome.results =
        (outcomes.flatMap FileOutcome.results).filter (fun hit => below hit.filePath) ∧
      failuresOf (files.filter keep) kept =
        (failuresOf files outcomes).filter fun failure => inside failure.path := by
  induction given with
  | nil => exact ⟨[], .nil, rfl, rfl⟩
  | @cons file outcome files outcomes gives given ih =>
    obtain ⟨here, others⟩ := List.forall_mem_cons.mp hits
    obtain ⟨there, rest⟩ := List.forall_mem_cons.mp failures
    obtain ⟨kept, gave, results, failed⟩ := ih others rest
    have found : outcome.results.filter (fun hit => below hit.filePath) =
        if keep file then outcome.results else [] :=
      filter_of_constant fun hit member => by rw [gives.filePath hit member, here]
    have faults : (outcome.failures file).filter (fun failure => inside failure.path) =
        if keep file then outcome.failures file else [] :=
      filter_of_constant fun failure member => by rw [path_of_mem_failures failure member, there]
    simp only [failuresOf] at failed ⊢
    simp only [List.flatMap_cons, List.zip_cons_cons, List.filter_append, found, faults,
      ← results, ← failed, List.filter_cons]
    split
    · exact ⟨outcome :: kept, .cons gives gave, rfl, rfl⟩
    · exact ⟨kept, gave, rfl, rfl⟩

end CodeAtlas.Engine
