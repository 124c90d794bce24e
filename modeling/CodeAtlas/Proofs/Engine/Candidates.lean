import CodeAtlas.Proofs.Engine.Cap
import CodeAtlas.Proofs.Text.Order
import Mathlib.Data.List.Nodup

/-!
# Candidates of a directory search

What a directory search looks at is decided before any file is read: the listed files that
pass the filter and whose language is known, in the order of their paths. The order in which
the files were listed is lost, so that two listings of the same files, with no two of one
path, are searched alike.
-/

namespace CodeAtlas.Engine

variable {engine : Engine} {root : String} {query : Query} {filter : PathFilter}
  {listed other : List (List String)}

/-- The path from the root of a listed file. -/
def relativePath (root : String) (names : List String) : String :=
  (Candidate.ofNames root names).relative

/-- Whether a directory search is about a file: the file passes the filter, and its language
is known. -/
def Wanted (engine : Engine) (query : Query) (filter : PathFilter) (file : Candidate) : Prop :=
  filter.accepts file.relative = true ∧ (engine.resolveLanguage? file.path query).isSome = true

/-- Whether a search is about a file is decidable. -/
instance (file : Candidate) : Decidable (engine.Wanted query filter file) :=
  inferInstanceAs (Decidable (_ ∧ _))

/-! ## Which files -/

/-- The candidates are the listed files that the search is about, in some order. -/
theorem candidates_perm (engine : Engine) (root : String) (query : Query) (filter : PathFilter)
    (listed : List (List String)) :
    (engine.candidates root query filter listed).Perm
      ((listed.map (Candidate.ofNames root)).filter fun file =>
        engine.Wanted query filter file) := by
  unfold candidates
  refine (List.mergeSort_perm _ _).trans ?_
  rw [List.filter_filter]
  refine List.Perm.of_eq (List.filter_congr fun file _ => ?_)
  rw [Bool.eq_iff_iff]
  simp [Wanted, and_comm]

/-- A file is a candidate when it is listed and the search is about it. -/
theorem mem_candidates {file : Candidate} :
    file ∈ engine.candidates root query filter listed ↔
      file ∈ listed.map (Candidate.ofNames root) ∧ engine.Wanted query filter file := by
  rw [(candidates_perm engine root query filter listed).mem_iff, List.mem_filter,
    decide_eq_true_iff]

/-- A file is a candidate as often as it is listed, if the search is about it. -/
theorem count_candidates (file : Candidate) :
    (engine.candidates root query filter listed).count file =
      if engine.Wanted query filter file then (listed.map (Candidate.ofNames root)).count file
      else 0 := by
  by_cases wanted : engine.Wanted query filter file
  · rw [if_pos wanted, (candidates_perm engine root query filter listed).count_eq]
    exact List.count_filter (decide_eq_true wanted)
  · rw [if_neg wanted]
    exact List.count_eq_zero.mpr fun member => wanted (mem_candidates.mp member).2

/-! ## In which order -/

/-- The same files, listed in another order, make the same candidates, if no two have one
path. -/
theorem candidates_of_perm (same : other.Perm listed)
    (distinct : (listed.map (relativePath root)).Nodup) :
    engine.candidates root query filter other = engine.candidates root query filter listed := by
  have found : (engine.candidates root query filter other).Perm
      (engine.candidates root query filter listed) :=
    ((candidates_perm ..).trans ((same.map _).filter _)).trans (candidates_perm ..).symm
  refine found.eq_of_pairwise ?_ (candidates_ordered ..) (candidates_ordered ..)
  -- Of two files of one path both are the same.
  intro first second left right before after
  have paths : ((listed.map (Candidate.ofNames root)).map Candidate.relative).Nodup := by
    rw [List.map_map]
    exact distinct
  have here := (mem_candidates.mp (found.mem_iff.mp left)).1
  have there := (mem_candidates.mp right).1
  exact List.inj_on_of_nodup_map paths here there (String.le_antisymm before after)

/-! ## Walks -/

/-- A visit looks at no directory. -/
theorem visit_files (engine : Engine) (files : FileSystem) (query : Query) (report : Report)
    (visited : List Candidate) :
    { engine with files }.visit query report visited = engine.visit query report visited := by
  induction visited generalizing report with
  | nil => rfl
  | cons file visited ih =>
    unfold visit
    simp only [ih]
    rfl

/-- Two file systems that list the same files below a root are walked alike. -/
theorem walk_of_perm {files : FileSystem}
    (directory : files.isDirectory root = engine.files.isDirectory root)
    (same : ({ engine with files }.listing root).Perm (engine.listing root))
    (distinct : ((engine.listing root).map (relativePath root)).Nodup) :
    { engine with files }.walk root query = engine.walk root query := by
  unfold walk
  simp only [directory, visit_files]
  have alike : { engine with files }.candidates = engine.candidates := rfl
  have found (filter : PathFilter) : { engine with files }.candidates root query filter
      ({ engine with files }.listing root) =
        engine.candidates root query filter (engine.listing root) := by
    rw [alike]
    exact candidates_of_perm same distinct
  simp only [found]

/-! ## Outcomes -/

/-- A file whose language is known is not skipped for its language. -/
theorem fileOutcome_known {path : String} {cap : Nat}
    (known : (engine.resolveLanguage? path query).isSome = true) (caches after : Caches) :
    (engine.fileOutcome path query cap).runFrom caches ≠ (.ok (.skipped .unsupported), after) := by
  intro done
  change (engine.outcomeBy path query fun unit => engine.searchUnit path unit query cap).runFrom
    caches = _ at done
  obtain ⟨missing, _⟩ | other | other | ⟨reason, other⟩ | ⟨unit, found, _, other⟩ :=
    outcomeBy_cases done
  · rw [missing] at known
    cases known
  all_goals cases other

/-! ## Exactness -/

/-- A file is a candidate exactly as often as it is listed if the search is about it, and never
otherwise. Candidates stand in the order of the bytes of their paths from the root, and the
search of none ends because its language is unknown. Neither the candidates nor what a walk
makes of a directory depend on the order in which the files are listed, if no two have one
path. -/
theorem candidates_exact (engine : Engine) (root : String) (query : Query) (filter : PathFilter)
    (listed : List (List String)) :
    let files := engine.candidates root query filter listed
    (∀ file, files.count file =
      if engine.Wanted query filter file then (listed.map (Candidate.ofNames root)).count file
      else 0) ∧
    files.Pairwise (fun first second =>
      Text.utf8 first.relative ≤ Text.utf8 second.relative) ∧
    (∀ file ∈ files, ∀ cap caches after,
      (engine.fileOutcome file.path query cap).runFrom caches ≠
        (.ok (.skipped .unsupported), after)) ∧
    (∀ other : List (List String), other.Perm listed →
      (listed.map (relativePath root)).Nodup →
        engine.candidates root query filter other = files) ∧
    ∀ other : FileSystem, other.isDirectory root = engine.files.isDirectory root →
      ({ engine with files := other }.listing root).Perm (engine.listing root) →
        ((engine.listing root).map (relativePath root)).Nodup →
          { engine with files := other }.walk root query = engine.walk root query := by
  intro files
  refine ⟨count_candidates, ?_, ?_, fun other same distinct => candidates_of_perm same distinct,
    fun other directory same distinct => walk_of_perm directory same distinct⟩
  · exact (candidates_ordered ..).imp Text.utf8_le_utf8.mpr
  · intro file member cap caches after
    exact fileOutcome_known (mem_candidates.mp member).2.2 caches after

/-- The root of a file system leads to itself. -/
theorem resolve_root {files : FileSystem} (directory : files.isDirectoryAt [] = true) :
    files.resolve "/" = .ok [] := by
  change FileSystem.resolveNames files .present 40 [] ["", ""] = .ok []
  rw [FileSystem.resolveNames, FileSystem.resolveNames, FileSystem.resolveNames]
  simp [directory]

/-- The directory with two files, listed the other way round. -/
def swappedFiles : FileSystem where
  root := .directory [("b.py", .file "g()".toUTF8), ("a.py", .file "f()".toUTF8)]

/-- The two files are walked alike in either order. -/
theorem candidates_exact_swapped :
    twoCalls.listing "/" = [["a.py"], ["b.py"]] ∧
    { twoCalls with files := swappedFiles }.listing "/" = [["b.py"], ["a.py"]] ∧
    twoCalls.candidates "/" anyCall ⟨[], []⟩ [["b.py"], ["a.py"]] =
      twoCalls.candidates "/" anyCall ⟨[], []⟩ [["a.py"], ["b.py"]] ∧
    { twoCalls with files := swappedFiles }.walk "/" anyCall = twoCalls.walk "/" anyCall := by
  have listing : twoCalls.listing "/" = [["a.py"], ["b.py"]] := by
    unfold Engine.listing
    rw [resolve_root rfl]
    rfl
  have swapped : { twoCalls with files := swappedFiles }.listing "/" = [["b.py"], ["a.py"]] := by
    unfold Engine.listing
    rw [resolve_root rfl]
    rfl
  have directory : swappedFiles.isDirectory "/" = twoCalls.files.isDirectory "/" := by
    unfold FileSystem.isDirectory
    rw [resolve_root rfl, resolve_root rfl]
    rfl
  have same : [["b.py"], ["a.py"]].Perm [["a.py"], ["b.py"]] := .swap _ _ _
  have distinct : ([["a.py"], ["b.py"]].map (relativePath "/")).Nodup := by decide
  obtain ⟨_, _, _, candidates, walk⟩ :=
    candidates_exact twoCalls "/" anyCall ⟨[], []⟩ [["a.py"], ["b.py"]]
  refine ⟨listing, swapped, candidates _ same distinct, walk _ directory ?_ ?_⟩
  · rwa [listing, swapped]
  · rwa [listing]

end CodeAtlas.Engine
