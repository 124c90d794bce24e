import CodeAtlas.Proofs.Engine.Candidates
import CodeAtlas.Proofs.Engine.Classes
import CodeAtlas.Proofs.Server.Reached

/-!
# What ends a directory search

A directory search that reads from a workspace fails in two ways only: its root is no
directory, or its globs are refused. No file can make it fail. With another source of
content it can also fail with an error of that source, if the error does not concern one
file and the file is looked at before the cap is used up.
-/

namespace CodeAtlas

/-- The errors that do not concern one file. -/
theorem SearchError.isPerFile_eq_false {error : SearchError} :
    error.isPerFile = false ↔ (∃ language message, error = .invalidPattern language message) ∨
      ∃ fault, error = .invalidGlob fault := by
  cases error <;> simp [isPerFile]

/-! ## Workspaces -/

/-- What a repository does not have at a revision is not found. -/
theorem readRevision_isPerFile {fs : FileSystem} {user : UserOptions}
    {repositories : Repositories} {path revision : String} {error : SearchError}
    (failed : readRevision fs user repositories path revision = .error error) :
    error.isPerFile = true := by
  unfold readRevision at failed
  simp only at failed
  split at failed
  · cases failed
    rfl
  · cases failed
    rfl
  · cases failed
    rfl
  · split at failed
    · cases failed
      rfl
    · split at failed
      · cases failed
      · cases failed
        rfl

/-- The errors of a workspace concern one file. -/
theorem workspaceSource_isPerFile {fs : FileSystem} {user : UserOptions}
    {repositories : Repositories} {path : String} {revision : Option String}
    {error : SearchError}
    (failed : workspaceSource fs user repositories path revision = .error error) :
    error.isPerFile = true := by
  unfold workspaceSource at failed
  cases revision with
  | some revision => exact readRevision_isPerFile failed
  | none =>
    simp only at failed
    split at failed
    · cases failed
    · cases failed
      rfl
    · cases failed
      rfl

namespace Engine

variable {engine : Engine} {root : String} {query : Query} {caches : Caches}

/-- Nothing stops a visit that reads from a workspace. -/
theorem not_stopsAt_of_workspace {fs : FileSystem} {user : UserOptions}
    {repositories : Repositories}
    (workspace : engine.source = workspaceSource fs user repositories) {report : Report}
    {files : List Candidate} {error : SearchError} :
    ¬engine.StopsAt query report files caches error := by
  rintro ⟨_, file, _, _, _, _, _, _, failed, concerns⟩
  rw [workspace] at failed
  cases (workspaceSource_isPerFile failed).symm.trans concerns

/-! ## Directory searches -/

/-- From whatever caches an engine can be in, a directory search fails exactly when its root
is no directory, with that root; or else when its globs are refused, with the reason, where
the includes are judged first, and of a set the first glob that cannot be read, and the
expressions once all can be read; or else with the first error of the content source that
does not concern one file, for a candidate that is looked at before the cap is used up. A
workspace has no such errors, so with it a search fails exactly when its root is no directory
or one of its globs cannot be used. It is assumed that the call patterns can be compiled. -/
theorem walk_fails_iff (engine : Engine) (root : String) (query : Query) (hashed : List Source)
    (caches : Caches) (reached : Reached engine.config engine.analyzer hashed caches)
    (compiles : engine.analyzer.PatternsCompile) :
    let result := ((engine.walk root query).runFrom caches).1
    (∀ error, result = .error error ↔
      (engine.files.isDirectory root = false ∧ error = .notFound root) ∨
      (engine.files.isDirectory root = true ∧
        ∃ fault, PathFilter.QueryFault query fault ∧ error = .invalidGlob fault) ∨
      (engine.files.isDirectory root = true ∧ ∃ filter, PathFilter.ofQuery query = .ok filter ∧
        engine.StopsAt query {} (engine.candidates root query filter (engine.listing root))
          caches error ∧
        ((∃ language message, error = .invalidPattern language message) ∨
          ∃ fault, error = .invalidGlob fault))) ∧
    (∀ fs user repositories, engine.source = workspaceSource fs user repositories →
      ((∃ error, result = .error error) ↔ engine.files.isDirectory root = false ∨
        ∃ text ∈ query.includes ++ query.excludes, ¬PathFilter.Usable text) ∧
      ∀ error, result = .error error ↔
        (engine.files.isDirectory root = false ∧ error = .notFound root) ∨
        (engine.files.isDirectory root = true ∧
          ∃ fault, PathFilter.QueryFault query fault ∧ error = .invalidGlob fault)) := by
  intro result
  have right := reached.patternsSound compiles
  have fails := walk_eq_error compiles root query right
  constructor
  · intro error
    rw [fails]
    refine or_congr_right (or_congr_right (and_congr_right fun _ => ?_))
    refine exists_congr fun filter => and_congr_right fun _ => ?_
    -- An error at which a visit stops does not concern one file.
    have concerns (stops : engine.StopsAt query {}
        (engine.candidates root query filter (engine.listing root)) caches error) :
        (∃ language message, error = .invalidPattern language message) ∨
          ∃ fault, error = .invalidGlob fault := by
      obtain ⟨_, _, _, _, _, _, _, blocks⟩ := stops
      exact SearchError.isPerFile_eq_false.mp blocks.2.2
    exact ⟨fun stops => ⟨stops, concerns stops⟩, And.left⟩
  · intro fs user repositories workspace
    have only (error : SearchError) : result = .error error ↔
        (engine.files.isDirectory root = false ∧ error = .notFound root) ∨
        (engine.files.isDirectory root = true ∧
          ∃ fault, PathFilter.QueryFault query fault ∧ error = .invalidGlob fault) := by
      rw [fails]
      simp [not_stopsAt_of_workspace workspace]
    refine ⟨?_, only⟩
    rw [← PathFilter.exists_queryFault]
    constructor
    · rintro ⟨error, failed⟩
      rcases (only error).mp failed with ⟨missing, _⟩ | ⟨_, fault, refused, _⟩
      · exact .inl missing
      · exact .inr ⟨fault, refused⟩
    · intro bad
      cases directory : engine.files.isDirectory root with
      | false => exact ⟨_, (only _).mpr (.inl ⟨directory, rfl⟩)⟩
      | true =>
        rcases bad with missing | ⟨fault, refused⟩
        · cases directory.symm.trans missing
        · exact ⟨_, (only _).mpr (.inr ⟨directory, fault, refused, rfl⟩)⟩

/-- The root leads to the directory that holds everything. -/
theorem isDirectory_root : ({} : FileSystem).isDirectory "/" = true := by
  unfold FileSystem.isDirectory
  rw [resolve_root rfl]
  rfl

/-- A search of an empty directory with one include fails for a bracket that is not
closed. -/
theorem walk_fails_iff_bracket :
    let query : Query :=
      { kind := .functionCalls, target := "f", scope := "/", includes := ["["] }
    (((ofTree soleTree).walk "/" query).runFrom (ofTree soleTree).freshCaches).1 =
      .error (.invalidGlob ⟨some "[", .unclosedClass⟩) := by
  intro query
  have started : Reached (ofTree soleTree).config (ofTree soleTree).analyzer []
      (ofTree soleTree).freshCaches := .fresh
  have compiles : (ofTree soleTree).analyzer.PatternsCompile :=
    Analyzer.patternsCompile_of_knows fun _ _ _ => rfl
  obtain ⟨fails, _⟩ := walk_fails_iff (ofTree soleTree) "/" query [] _ started compiles
  have unclosed : PathFilter.readSet query.includes = .error ⟨some "[", .unclosedClass⟩ := rfl
  have refused : PathFilter.QueryFault query ⟨some "[", .unclosedClass⟩ :=
    .includes (PathFilter.readSet_eq_error.mp unclosed)
  exact (fails _).mpr (.inr (.inl ⟨isDirectory_root, _, refused, rfl⟩))

/-- Of two includes that cannot be used, the second is reported: it has an expression of its
own, and the first has not. -/
theorem walk_fails_iff_second :
    let first := (Glob.nestedGlob 300 []).text
    let second := (Glob.nestedGlob 300 ['.', 'p', 'y']).text
    let query : Query :=
      { kind := .functionCalls, target := "f", scope := "/", includes := [first, second] }
    ∃ blamed reported,
      PathFilter.readSet [first] = .error blamed ∧
      (((ofTree soleTree).walk "/" query).runFrom (ofTree soleTree).freshCaches).1 =
        .error (.invalidGlob reported) ∧
      reported ≠ blamed := by
  intro first second query
  have deep : Glob.maxDepth ≤ 299 + 1 := by decide
  have refused := PathFilter.readSet_nested_second deep
  have fault : PathFilter.QueryFault query _ :=
    .includes (PathFilter.readSet_eq_error.mp refused)
  have compiles : (ofTree soleTree).analyzer.PatternsCompile :=
    Analyzer.patternsCompile_of_knows fun _ _ _ => rfl
  have right : (ofTree soleTree).freshCaches.PatternsSound (ofTree soleTree).analyzer :=
    Caches.fresh_patternsSound _ _
  have failed := (walk_eq_error compiles "/" query right _).mpr
    (.inr (.inl ⟨isDirectory_root, _, fault, rfl⟩))
  exact ⟨_, _, PathFilter.readSet_nested deep, failed, by simp⟩

end Engine

end CodeAtlas
