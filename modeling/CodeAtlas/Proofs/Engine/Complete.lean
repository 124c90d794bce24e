import CodeAtlas.Walk

/-!
# Complete searches

A search with a cap is the complete search, cut. The complete searches below have no cap;
each capped search of the engine is shown to be equal, as a piece of work, to the complete
one followed by a cut, so that the caches it leaves do not depend on the cap either.
-/

namespace CodeAtlas

/-! ## Running work -/

namespace Analysis

variable {α β : Type}

/-- A result that is known without the caches leaves them as they are. -/
theorem runFrom_ofExcept (result : Except SearchError α) (caches : Caches) :
    Analysis.runFrom (ExceptT.mk (pure result)) caches = (result, caches) := rfl

/-- Looking at the caches leaves them as they are. -/
theorem runFrom_get (caches : Caches) : Analysis.runFrom get caches = (.ok caches, caches) := rfl

/-- Work that fails ends the work it is the first part of. -/
theorem runFrom_bind_error {work : Analysis α} {next : α → Analysis β} {caches after : Caches}
    {error : SearchError} (failed : work.runFrom caches = (.error error, after)) :
    (work >>= next).runFrom caches = (.error error, after) := by
  change StateT.run (ExceptT.bindCont next (StateT.run work caches).1)
    (StateT.run work caches).2 = _
  change StateT.run work caches = _ at failed
  rw [failed]
  rfl

/-- Work that succeeds hands its value and its caches on. -/
theorem runFrom_bind_ok {work : Analysis α} {next : α → Analysis β} {caches after : Caches}
    {value : α} (done : work.runFrom caches = (.ok value, after)) :
    (work >>= next).runFrom caches = (next value).runFrom after := by
  change StateT.run (ExceptT.bindCont next (StateT.run work caches).1)
    (StateT.run work caches).2 = _
  change StateT.run work caches = _ at done
  rw [done]
  rfl

/-- Work whose value is changed in the end leaves the caches it left before. -/
theorem runFrom_map (change : α → β) (work : Analysis α) (caches : Caches) :
    (change <$> work).runFrom caches =
      ((work.runFrom caches).1.map change, (work.runFrom caches).2) := by
  rw [map_eq_pure_bind]
  cases run : work.runFrom caches with
  | mk result after =>
    cases result with
    | error error => rw [runFrom_bind_error run]; rfl
    | ok value => rw [runFrom_bind_ok run]; rfl

/-- Work that succeeds with a changed value succeeded before the change. -/
theorem runFrom_map_ok {change : α → β} {work : Analysis α} {caches after : Caches} {value : β}
    (done : (change <$> work).runFrom caches = (.ok value, after)) :
    ∃ before, work.runFrom caches = (.ok before, after) ∧ change before = value := by
  rw [runFrom_map] at done
  cases run : work.runFrom caches with
  | mk result left =>
    rw [run] at done
    cases result with
    | error error => simp [Except.map] at done
    | ok before =>
      obtain ⟨same, kept⟩ : change before = value ∧ left = after := by
        simpa [Except.map] using done
      exact ⟨before, by rw [kept], same⟩

/-- Two parts succeed together when each does. -/
theorem runFrom_bind_eq_ok {work : Analysis α} {next : α → Analysis β} {caches after : Caches}
    {value : β} (done : (work >>= next).runFrom caches = (.ok value, after)) :
    ∃ middle between, work.runFrom caches = (.ok middle, between) ∧
      (next middle).runFrom between = (.ok value, after) := by
  cases run : work.runFrom caches with
  | mk result between =>
    cases result with
    | error error =>
      rw [runFrom_bind_error run] at done
      cases done
    | ok middle =>
      rw [runFrom_bind_ok run] at done
      exact ⟨middle, between, rfl, done⟩

/-- Work that succeeds needs no answer to its failures. -/
theorem runFrom_tryCatch_ok {work : Analysis α} (handle : SearchError → Analysis α)
    {caches after : Caches} {value : α} (done : work.runFrom caches = (.ok value, after)) :
    (tryCatch work handle).runFrom caches = (.ok value, after) := by
  unfold Analysis.runFrom at done ⊢
  rw [ExceptT.run_tryCatch, StateT.run_bind, done]
  rfl

/-- Work that fails goes on as its failure says, from the caches it left. -/
theorem runFrom_tryCatch_error {work : Analysis α} (handle : SearchError → Analysis α)
    {caches after : Caches} {error : SearchError}
    (failed : work.runFrom caches = (.error error, after)) :
    (tryCatch work handle).runFrom caches = (handle error).runFrom after := by
  unfold Analysis.runFrom at failed ⊢
  rw [ExceptT.run_tryCatch, StateT.run_bind, failed]
  rfl

/-- Work that succeeds though its failures are answered did so itself, or its answer did. -/
theorem runFrom_tryCatch_eq_ok {work : Analysis α} {handle : SearchError → Analysis α}
    {caches after : Caches} {value : α}
    (done : (tryCatch work handle).runFrom caches = (.ok value, after)) :
    work.runFrom caches = (.ok value, after) ∨
      ∃ error between, (handle error).runFrom between = (.ok value, after) := by
  cases run : work.runFrom caches with
  | mk result between =>
    cases result with
    | error error =>
      rw [runFrom_tryCatch_error handle run] at done
      exact .inr ⟨error, between, done⟩
    | ok found =>
      rw [runFrom_tryCatch_ok handle run] at done
      exact .inl done

/-- Changing the value of work that answers its failures changes both answers. -/
theorem map_tryCatch (change : α → β) (work : Analysis α) (handle : SearchError → Analysis α) :
    change <$> tryCatch work handle =
      tryCatch (change <$> work) fun error => change <$> handle error := by
  apply ExceptT.ext
  rw [ExceptT.run_map, ExceptT.run_tryCatch, ExceptT.run_tryCatch, ExceptT.run_map]
  simp only [map_bind, bind_map_left]
  congr
  funext result
  cases result with
  | error error => exact (ExceptT.run_map change (handle error)).symm
  | ok value => rfl

end Analysis

/-! ## One text, one file -/

/-- An outcome cut to a number of matches. -/
def FileOutcome.take (cap : Nat) : FileOutcome → FileOutcome
  | .searched found => .searched (found.take cap)
  | .skipped reason => .skipped reason
  | .failed reason => .failed reason

/-- The matches of a cut outcome are the first ones. -/
@[simp]
theorem FileOutcome.results_take (cap : Nat) (outcome : FileOutcome) :
    (outcome.take cap).results = outcome.results.take cap := by
  cases outcome with
  | searched found => rfl
  | skipped reason => exact (List.take_nil).symm
  | failed reason => exact (List.take_nil).symm

/-- The outcome of a file with an error has no matches to cut. -/
theorem take_contain (cap : Nat) (error : SearchError) :
    (contain error).map (FileOutcome.take cap) = contain error := by
  unfold contain
  split <;> rfl

namespace Engine

variable (engine : Engine)

/-- All calls in a tree whose text contains the target, in document order. -/
def allCalls (parsed : ParsedTree) (unit : SourceUnit) (query : Query) : Analysis (List Hit) := do
  match ← engine.analyzer.compileFor unit.language .functionCalls with
  | none => return []
  | some pattern =>
    if (pattern.index? "call").isNone then
      throw (.invalidPattern unit.language.id "pattern has no @call capture")
    let calls := parsed.tree.preorder.filter (pattern.captures? "call")
    let found := calls.filter fun node => Text.contains query.target (node.text unit.text)
    return found.map (callHit unit.text)

/-- All symbols of a tree whose name contains the target, in listing order. -/
def allDefinitions (parsed : ParsedTree) (unit : SourceUnit) (query : Query) :
    Except SearchError (List Hit) := do
  let symbols ← engine.analyzer.outline parsed unit
  let found := symbols.filter fun symbol => Text.contains query.target symbol.name
  return found.map definitionHit

/-- All matches in a text. -/
def allMatches (identity : String) (unit : SourceUnit) (query : Query) :
    Analysis (List Match) := do
  let parsed ← engine.analyzer.parse identity unit
  let hits ← match query.kind with
    | .functionCalls => engine.allCalls parsed unit query
    | .symbolDefinitions => ExceptT.mk (pure (engine.allDefinitions parsed unit query))
  return hits.map fun hit => hit.toMatch identity unit query

/-- The outcome of one file whose text is searched in a given way. -/
def outcomeBy (path : String) (query : Query) (search : SourceUnit → Analysis (List Match)) :
    Analysis FileOutcome := do
  match engine.resolveLanguage? path query with
  | none => return .skipped .unsupported
  | some language =>
    match engine.source path query.revision with
    | .error error => ExceptT.mk (pure (contain error))
    | .ok content =>
      if content.isEmpty then return .skipped .empty
      match decodeText path content with
      | .error (.binary _) => return .skipped .binary
      | .error error => ExceptT.mk (pure (contain error))
      | .ok text =>
        if Text.isBlank text then return .skipped .empty
        try pure (.searched (← search ⟨language, text⟩))
        catch error => ExceptT.mk (pure (contain error))

/-- The outcome of one file with all its matches. -/
def completeOutcome (path : String) (query : Query) : Analysis FileOutcome :=
  engine.outcomeBy path query fun unit => engine.allMatches path unit query

/-- A scan with room for one more hit adds the first of the calls ahead, as many as it has
room for. The cap is looked at only when a hit has been added, so a cap of zero is a cap of
one. -/
theorem scanCalls_of_room {isCall : Node → Bool} {text target : String} {cap : Nat}
    {hits : List Hit} (room : hits.length < max cap 1) (nodes : List Node) :
    scanCalls isCall text target cap hits nodes =
      hits ++ (((nodes.filter isCall).filter fun node =>
        Text.contains target (node.text text)).take (max cap 1 - hits.length)).map
          (callHit text) := by
  induction nodes generalizing hits with
  | nil => simp [scanCalls]
  | cons node nodes ih =>
    rw [scanCalls]
    by_cases call : isCall node = true
    · rw [List.filter_cons_of_pos call, if_neg (by simpa using call)]
      by_cases found : Text.contains target (node.text text) = true
      · have left : max cap 1 - hits.length = max cap 1 - (hits.length + 1) + 1 := by omega
        rw [List.filter_cons, if_pos found, if_neg (by simpa using found), left,
          List.take_succ_cons, List.map_cons]
        by_cases spent : cap ≤ hits.length + 1
        · have full : max cap 1 - (hits.length + 1) = 0 := by omega
          rw [if_pos (by simpa using spent), full, List.take_zero, List.map_nil]
        · have more : (hits ++ [callHit text node]).length < max cap 1 := by
            rw [List.length_append, List.length_singleton]
            omega
          rw [if_neg (by simpa using spent), ih more, List.length_append, List.length_singleton,
            List.append_assoc, List.singleton_append]
      · rw [List.filter_cons, if_neg found, if_pos (by simpa using found), ih room]
    · rw [List.filter_cons_of_neg call, if_pos (by simpa using call), ih room]

/-- With a cap that is not zero, the scan for calls keeps those whose text contains the target
and cuts them at the cap. -/
theorem scanCalls_eq {cap : Nat} (positive : cap ≠ 0) (isCall : Node → Bool) (text target : String)
    (nodes : List Node) :
    scanCalls isCall text target cap [] nodes =
      (((nodes.filter isCall).filter fun node =>
        Text.contains target (node.text text)).take cap).map (callHit text) := by
  have same : max cap 1 = cap := Nat.max_eq_left (Nat.one_le_iff_ne_zero.mpr positive)
  have room : ([] : List Hit).length < max cap 1 := Nat.le_max_right cap 1
  rw [scanCalls_of_room room, same]
  rfl

/-- The capped search for calls keeps the first calls. -/
theorem findCalls_eq (parsed : ParsedTree) (unit : SourceUnit) (query : Query) {cap : Nat}
    (positive : cap ≠ 0) :
    engine.findCalls parsed unit query cap =
      List.take cap <$> engine.allCalls parsed unit query := by
  unfold findCalls allCalls
  rw [map_bind]
  congr
  funext compiled
  cases compiled with
  | none => rw [map_pure, List.take_nil]
  | some pattern =>
    simp only
    split
    · rw [map_bind]
      rfl
    · rw [map_pure, scanCalls_eq positive, List.map_take]

/-- The capped search for definitions keeps the first symbols. -/
theorem findDefinitions_eq (parsed : ParsedTree) (unit : SourceUnit) (query : Query)
    (cap : Nat) :
    engine.findDefinitions parsed unit query cap =
      List.take cap <$> engine.allDefinitions parsed unit query := by
  unfold findDefinitions allDefinitions
  rw [map_bind]
  congr
  funext symbols
  simp only [map_pure, List.map_take]

/-- The capped search of a text keeps the first matches. -/
theorem searchUnit_eq (identity : String) (unit : SourceUnit) (query : Query) {cap : Nat}
    (positive : cap ≠ 0) :
    engine.searchUnit identity unit query cap =
      List.take cap <$> engine.allMatches identity unit query := by
  unfold searchUnit allMatches
  rw [if_neg positive, map_bind]
  congr
  funext parsed
  cases query.kind with
  | functionCalls =>
    simp only [engine.findCalls_eq parsed unit query positive, map_bind, bind_map_left, map_pure,
      List.map_take]
  | symbolDefinitions =>
    simp only [findDefinitions_eq, map_bind, map_pure]
    cases engine.allDefinitions parsed unit query with
    | error error => rfl
    | ok found => exact congrArg (pure : List Match → Analysis (List Match)) List.map_take

/-- Cutting what a search finds in a file cuts its outcome. -/
theorem outcomeBy_take (path : String) (query : Query)
    (search : SourceUnit → Analysis (List Match)) (cap : Nat) :
    (engine.outcomeBy path query fun unit => List.take cap <$> search unit) =
      FileOutcome.take cap <$> engine.outcomeBy path query search := by
  have contained (error : SearchError) :
      FileOutcome.take cap <$> (ExceptT.mk (pure (contain error)) : Analysis FileOutcome) =
        ExceptT.mk (pure (contain error)) := by
    apply ExceptT.ext
    rw [ExceptT.run_map, ExceptT.run_mk, map_pure, take_contain]
  unfold outcomeBy
  cases engine.resolveLanguage? path query with
  | none => rfl
  | some language =>
    simp only
    cases engine.source path query.revision with
    | error error => exact (contained error).symm
    | ok content =>
      simp only
      split
      · rfl
      · split
        · rfl
        · exact (contained _).symm
        · split
          · rfl
          · rw [Analysis.map_tryCatch]
            simp only [contained, bind_map_left, map_bind, map_pure]
            rfl

/-- The capped search of a file cuts its outcome. -/
theorem fileOutcome_eq (path : String) (query : Query) {cap : Nat} (positive : cap ≠ 0) :
    engine.fileOutcome path query cap =
      FileOutcome.take cap <$> engine.completeOutcome path query := by
  change (engine.outcomeBy path query fun unit => engine.searchUnit path unit query cap) = _
  simp only [searchUnit_eq engine path _ query positive]
  exact outcomeBy_take engine path query _ cap

/-- A search of a text finds no more than its cap allows. -/
theorem searchUnit_take (identity : String) (unit : SourceUnit) (query : Query) (cap : Nat) :
    List.take cap <$> engine.searchUnit identity unit query cap =
      engine.searchUnit identity unit query cap := by
  by_cases none : cap = 0
  · subst none
    rfl
  · rw [searchUnit_eq engine identity unit query none, Functor.map_map]
    simp only [List.take_take, Nat.min_self]

/-- A search of a file finds no more than its cap allows. -/
theorem fileOutcome_take (path : String) (query : Query) (cap : Nat) :
    FileOutcome.take cap <$> engine.fileOutcome path query cap =
      engine.fileOutcome path query cap := by
  have cut := outcomeBy_take engine path query
    (fun unit => engine.searchUnit path unit query cap) cap
  simp only [searchUnit_take] at cut
  exact cut.symm

variable {engine} {path : String} {query : Query} {caches after : Caches} {outcome : FileOutcome}

/-- A file that was searched has no more matches than the cap allows. -/
theorem length_fileOutcome {cap : Nat}
    (done : (engine.fileOutcome path query cap).runFrom caches = (.ok outcome, after)) :
    outcome.results.length ≤ cap := by
  rw [← fileOutcome_take] at done
  obtain ⟨before, _, rfl⟩ := Analysis.runFrom_map_ok done
  rw [FileOutcome.results_take]
  exact List.length_take_le _ _

/-- Behind a capped search of a file stands a complete one. -/
theorem exists_completeOutcome {cap : Nat} (positive : cap ≠ 0)
    (done : (engine.fileOutcome path query cap).runFrom caches = (.ok outcome, after)) :
    ∃ whole, (engine.completeOutcome path query).runFrom caches = (.ok whole, after) ∧
      whole.take cap = outcome := by
  rw [fileOutcome_eq engine path query positive] at done
  exact Analysis.runFrom_map_ok done

/-- What the search of a file can end with: its language is unknown, there is no text to be
searched, something concerns this one file, or its text was searched. -/
theorem outcomeBy_cases {search : SourceUnit → Analysis (List Match)}
    (done : (engine.outcomeBy path query search).runFrom caches = (.ok outcome, after)) :
    (engine.resolveLanguage? path query = none ∧ outcome = .skipped .unsupported) ∨
      outcome = .skipped .empty ∨ outcome = .skipped .binary ∨
      (∃ reason, outcome = .failed reason) ∨
      ∃ unit found, (search unit).runFrom caches = (.ok found, after) ∧
        outcome = .searched found := by
  have contained {error : SearchError} {before : Caches}
      (known : Analysis.runFrom (ExceptT.mk (pure (contain error))) before =
        (.ok outcome, after)) : ∃ reason, outcome = .failed reason := by
    have value : contain error = .ok outcome := congrArg Prod.fst known
    unfold contain at value
    split at value
    · cases value
      exact ⟨_, rfl⟩
    · cases value
  unfold outcomeBy at done
  cases resolved : engine.resolveLanguage? path query with
  | none =>
    rw [resolved] at done
    cases done
    exact .inl ⟨rfl, rfl⟩
  | some language =>
    simp only [resolved] at done
    refine .inr ?_
    split at done
    · exact .inr (.inr (.inl (contained done)))
    · split at done
      · cases done
        exact .inl rfl
      · split at done
        · cases done
          exact .inr (.inl rfl)
        · exact .inr (.inr (.inl (contained done)))
        · split at done
          · cases done
            exact .inl rfl
          · refine .inr (.inr ?_)
            obtain searched | ⟨error, between, answered⟩ := Analysis.runFrom_tryCatch_eq_ok done
            · obtain ⟨found, between, run, last⟩ := Analysis.runFrom_bind_eq_ok searched
              cases last
              exact .inr ⟨_, found, run, rfl⟩
            · exact .inl (contained answered)

/-- The matches in the outcome of a file are those that the search of its text found. -/
theorem outcomeBy_eq_ok {search : SourceUnit → Analysis (List Match)}
    (done : (engine.outcomeBy path query search).runFrom caches = (.ok outcome, after)) :
    outcome.results = [] ∨ ∃ unit, (search unit).runFrom caches = (.ok outcome.results, after) := by
  rcases outcomeBy_cases done with ⟨_, rfl⟩ | rfl | rfl | ⟨reason, rfl⟩ | ⟨unit, found, run, rfl⟩
  · exact .inl rfl
  · exact .inl rfl
  · exact .inl rfl
  · exact .inl rfl
  · exact .inr ⟨unit, run⟩

/-- The matches of a text stand in the text. -/
theorem filePath_of_allMatches {identity : String} {unit : SourceUnit} {found : List Match}
    (done : (engine.allMatches identity unit query).runFrom caches = (.ok found, after)) :
    ∀ hit ∈ found, hit.filePath = identity := by
  unfold allMatches at done
  obtain ⟨_, _, _, searched⟩ := Analysis.runFrom_bind_eq_ok done
  simp only at searched
  split at searched <;>
  · obtain ⟨hits, _, _, listed⟩ := Analysis.runFrom_bind_eq_ok searched
    cases listed
    intro hit member
    obtain ⟨_, _, rfl⟩ := List.mem_map.mp member
    rfl

/-- The matches of a file stand in the file. -/
theorem filePath_of_completeOutcome
    (done : (engine.completeOutcome path query).runFrom caches = (.ok outcome, after)) :
    ∀ hit ∈ outcome.results, hit.filePath = path := by
  obtain nothing | ⟨unit, searched⟩ := outcomeBy_eq_ok done
  · rw [nothing]
    exact fun _ member => absurd member List.not_mem_nil
  · exact filePath_of_allMatches searched

end Engine

end CodeAtlas
