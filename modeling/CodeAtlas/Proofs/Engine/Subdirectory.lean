import CodeAtlas.Proofs.Engine.Candidates
import CodeAtlas.Proofs.Engine.Outcomes
import CodeAtlas.Proofs.FileSystem.Below
import CodeAtlas.Proofs.Walk

/-!
# Searches of subdirectories

A search of a directory below a root finds what the search of the root finds there, with the
same displayed paths, in the same order. The two differ in the paths from the root: those of
the inner search lack the way to the subdirectory. A common beginning does not change the order
of texts, so both visit the files below the subdirectory in the same order.
-/

namespace CodeAtlas

open CodeAtlas.Path (IsName)

/-- A file of a search below a directory as the search from above the directory sees it. -/
def Candidate.under (sub : List String) (file : Candidate) : Candidate :=
  { file with relative := Text.join "/" sub ++ "/" ++ file.relative }

/-- A failure of a search below a directory as the search from above the directory meets it. -/
def FileFailure.under (sub : List String) (failure : FileFailure) : FileFailure :=
  { failure with path := Text.join "/" sub ++ "/" ++ failure.path }

/-- A path without backslashes is shown as it is. -/
theorem Candidate.ofNames_of_plain (root : String) {names : List String}
    (plain : ∀ name ∈ names, '\\' ∉ name.toList) :
    Candidate.ofNames root names = ⟨Text.join "/" names, Path.below root names⟩ := by
  have absent : '\\' ∉ (Text.join "/" names).toList := by
    rw [Text.toList_join]
    intro member
    obtain separator | ⟨_, listed, inside⟩ := Chars.mem_join member
    · exact absurd separator (by decide)
    · obtain ⟨name, member, rfl⟩ := List.mem_map.mp listed
      exact plain name member inside
  unfold Candidate.ofNames
  rw [Text.replaceChar_of_notMem absent]

namespace Engine

/-- Names that lead from a root through directories, no links and none under the name `.git`,
to a directory that a path can be written for. -/
structure LeadsBelow (engine : Engine) (root : String) (location : Location)
    (sub : List String) : Prop where
  resolved : engine.files.resolve root = .ok location
  some : sub ≠ []
  directory : engine.files.isDirectoryAt (location ++ sub) = true
  visible : ".git" ∉ sub
  usable : engine.files.isDirectory (Path.below root sub) = true

variable {engine : Engine} {root : String} {location : Location} {sub names : List String}
  {query : Query}

/-! ## Listed names -/

/-- Listed files are reached by at least one name, and all their names are proper. -/
theorem isName_of_mem_listing (wellNamed : engine.files.root.WellNamed)
    (listed : names ∈ engine.listing root) : names ≠ [] ∧ ∀ name ∈ names, IsName name := by
  have below {location : Location} (member : names ∈ engine.files.filesBelow location) :
      names ≠ [] ∧ ∀ name ∈ names, IsName name := by
    unfold FileSystem.filesBelow at member
    split at member
    · rename_i held stands
      have kept := (wellNamed.at? stands).2
      exact ⟨Entry.ne_nil_of_mem_filesHeld member,
        Entry.isName_of_mem_filesHeld kept.2.1 kept.2.2 member⟩
    · cases member
  unfold listing at listed
  split at listed
  · cases listed
  · split at listed
    · exact below (List.mem_of_mem_filter listed)
    · exact below listed

/-- Without ignore rules all files below a directory are listed. -/
theorem listing_eq (unfiltered : engine.config.respectGitignore = false)
    (resolved : engine.files.resolve root = .ok location) :
    engine.listing root = engine.files.filesBelow location := by
  simp [listing, resolved, unfiltered]

/-! ## Candidates -/

/-- Without globs a search is about every file whose language is known. -/
theorem wanted_of_globless {file : Candidate} : engine.Wanted query ⟨[], []⟩ file ↔
    (engine.resolveLanguage? file.path query).isSome = true := by
  simp [Wanted, PathFilter.accepts, PathFilter.hits]

/-- Without globs a search is about the same files from above and from below. -/
theorem filter_under (files : List Candidate) :
    (files.map (Candidate.under sub)).filter (fun file => engine.Wanted query ⟨[], []⟩ file) =
      (files.filter fun file => engine.Wanted query ⟨[], []⟩ file).map (Candidate.under sub) := by
  simp only [List.filter_map, wanted_of_globless]
  rfl

/-- Candidates without a backslash in their names are the same if their paths from the root
are. -/
theorem eq_of_relative (wellNamed : engine.files.root.WellNamed)
    (plain : ∀ names ∈ engine.listing root, ∀ name ∈ names, '\\' ∉ name.toList)
    {first second : Candidate}
    (left : first ∈ (engine.listing root).map (Candidate.ofNames root))
    (right : second ∈ (engine.listing root).map (Candidate.ofNames root))
    (same : first.relative = second.relative) : first = second := by
  obtain ⟨names, listed, rfl⟩ := List.mem_map.mp left
  obtain ⟨others, also, rfl⟩ := List.mem_map.mp right
  rw [Candidate.ofNames_of_plain root (plain names listed),
    Candidate.ofNames_of_plain root (plain others also)] at same
  obtain ⟨some, proper⟩ := isName_of_mem_listing wellNamed listed
  obtain ⟨more, alsoProper⟩ := isName_of_mem_listing wellNamed also
  rw [Path.join_injective some more proper alsoProper same]

/-! ## The way to a subdirectory -/

/-- The names of the way are proper. -/
theorem LeadsBelow.isName (way : engine.LeadsBelow root location sub)
    (wellNamed : engine.files.root.WellNamed) : ∀ name ∈ sub, IsName name := by
  obtain ⟨held, stands⟩ := FileSystem.isDirectoryAt_eq_true.mp way.directory
  exact fun name member =>
    (wellNamed.at? stands).1 name (List.mem_append_right location member)

section

variable (way : engine.LeadsBelow root location sub) (wellNamed : engine.files.root.WellNamed)
  (unfiltered : engine.config.respectGitignore = false)

include way wellNamed unfiltered

/-- The files listed below a root whose names begin with the way are those listed below the
subdirectory. -/
theorem LeadsBelow.filter_listing :
    (engine.listing root).filter sub.isPrefixOf =
      (engine.listing (Path.below root sub)).map (sub ++ ·) := by
  have inner := FileSystem.resolve_below way.resolved way.some (way.isName wellNamed)
    way.directory way.usable
  rw [listing_eq unfiltered way.resolved, listing_eq unfiltered inner]
  exact FileSystem.filter_filesBelow wellNamed way.directory way.visible

/-- Files whose names begin with the way have further names. -/
theorem LeadsBelow.isPrefixOf_iff (listed : names ∈ engine.listing root) :
    sub.isPrefixOf names = true ↔ ∃ rest, rest ≠ [] ∧ names = sub ++ rest := by
  constructor
  · intro first
    have kept := List.mem_filter.mpr ⟨listed, first⟩
    rw [way.filter_listing wellNamed unfiltered] at kept
    obtain ⟨rest, inside, rfl⟩ := List.mem_map.mp kept
    exact ⟨rest, (isName_of_mem_listing wellNamed inside).1, rfl⟩
  · rintro ⟨rest, _, rfl⟩
    exact List.isPrefixOf_iff_prefix.mpr (List.prefix_append sub rest)

/-- A listed file is displayed below the subdirectory when its names begin with the way. -/
theorem LeadsBelow.startsWith_path (listed : names ∈ engine.listing root) :
    Text.startsWith (Path.below root sub ++ "/") (Path.below root names) =
      sub.isPrefixOf names := by
  obtain ⟨some, proper⟩ := isName_of_mem_listing wellNamed listed
  rw [Bool.eq_iff_iff, way.isPrefixOf_iff wellNamed unfiltered listed]
  exact Path.startsWith_below root way.some (way.isName wellNamed) some proper

/-- A listed file has a path from the root through the way when its names begin with it. -/
theorem LeadsBelow.startsWith_relative (listed : names ∈ engine.listing root) :
    Text.startsWith (Text.join "/" sub ++ "/") (Text.join "/" names) = sub.isPrefixOf names := by
  rw [Bool.eq_iff_iff, way.isPrefixOf_iff wellNamed unfiltered listed]
  exact Path.startsWith_join way.some (way.isName wellNamed)
    (isName_of_mem_listing wellNamed listed).2

/-- Of a candidate both of its paths say whether it stands below the subdirectory. -/
theorem LeadsBelow.startsWith_agree
    (plain : ∀ names ∈ engine.listing root, ∀ name ∈ names, '\\' ∉ name.toList)
    {file : Candidate} (member : file ∈ (engine.listing root).map (Candidate.ofNames root)) :
    Text.startsWith (Text.join "/" sub ++ "/") file.relative =
      Text.startsWith (Path.below root sub ++ "/") file.path := by
  obtain ⟨names, listed, rfl⟩ := List.mem_map.mp member
  rw [Candidate.ofNames_of_plain root (plain names listed)]
  exact (way.startsWith_relative wellNamed unfiltered listed).trans
    (way.startsWith_path wellNamed unfiltered listed).symm

/-- The files listed below a root that are displayed below the subdirectory are those listed
below the subdirectory. -/
theorem LeadsBelow.filter_files
    (plain : ∀ names ∈ engine.listing root, ∀ name ∈ names, '\\' ∉ name.toList) :
    ((engine.listing root).map (Candidate.ofNames root)).filter (fun file =>
        Text.startsWith (Path.below root sub ++ "/") file.path) =
      ((engine.listing (Path.below root sub)).map
        (Candidate.ofNames (Path.below root sub))).map (Candidate.under sub) := by
  have beyond := way.filter_listing wellNamed unfiltered
  have shown : ∀ names ∈ engine.listing root, Text.startsWith (Path.below root sub ++ "/")
      (Candidate.ofNames root names).path = sub.isPrefixOf names :=
    fun _ listed => way.startsWith_path wellNamed unfiltered listed
  rw [List.filter_map, List.map_map]
  refine (congrArg _ ((List.filter_congr shown).trans beyond)).trans ?_
  rw [List.map_map]
  refine List.map_congr_left fun rest inside => ?_
  have listed : sub ++ rest ∈ engine.listing root :=
    List.mem_of_mem_filter (beyond ▸ List.mem_map_of_mem inside)
  have whole := plain _ listed
  simp only [Function.comp_apply]
  rw [Candidate.ofNames_of_plain root whole, Candidate.ofNames_of_plain _ fun name member =>
    whole name (List.mem_append_right sub member)]
  simp only [Candidate.under]
  rw [Path.below_below root way.some (way.isName wellNamed),
    Text.join_append way.some (isName_of_mem_listing wellNamed inside).1]

/-- The candidates of a root that are displayed below the subdirectory are, in the same order,
the candidates of the subdirectory. -/
theorem LeadsBelow.filter_candidates
    (plain : ∀ names ∈ engine.listing root, ∀ name ∈ names, '\\' ∉ name.toList) :
    (engine.candidates root query ⟨[], []⟩ (engine.listing root)).filter (fun file =>
        Text.startsWith (Path.below root sub ++ "/") file.path) =
      (engine.candidates (Path.below root sub) query ⟨[], []⟩
        (engine.listing (Path.below root sub))).map (Candidate.under sub) := by
  have outer := (candidates_perm engine root query ⟨[], []⟩ (engine.listing root)).filter
    fun file => Text.startsWith (Path.below root sub ++ "/") file.path
  have inner := (candidates_perm engine (Path.below root sub) query ⟨[], []⟩
    (engine.listing (Path.below root sub))).map (Candidate.under sub)
  rw [List.filter_filter, List.filter_congr fun _ _ => Bool.and_comm _ _, ← List.filter_filter,
    way.filter_files wellNamed unfiltered plain, filter_under] at outer
  have same := outer.trans inner.symm
  refine same.eq_of_pairwise ?_ ((candidates_ordered ..).filter _)
    ((candidates_ordered ..).map _ fun first second => Text.append_le_append _)
  intro first second left right before after
  have here := List.mem_of_mem_filter left
  have there := List.mem_of_mem_filter (same.mem_iff.mpr right)
  exact eq_of_relative wellNamed plain (mem_candidates.mp here).1 (mem_candidates.mp there).1
    (String.le_antisymm before after)

end

/-! ## Failures -/

/-- The failures of a subdirectory are met from above under longer paths. -/
theorem failuresOf_under (sub : List String) (files : List Candidate)
    (outcomes : List FileOutcome) :
    failuresOf (files.map (Candidate.under sub)) outcomes =
      (failuresOf files outcomes).map (FileFailure.under sub) := by
  have each (visit : Candidate × FileOutcome) : visit.2.failures (visit.1.under sub) =
      (visit.2.failures visit.1).map (FileFailure.under sub) := by
    cases visit.2 <;> rfl
  unfold failuresOf
  rw [List.zip_map_left, List.flatMap_map, List.map_flatMap]
  exact congrArg (List.flatMap · _) (funext each)

/-! ## Directory searches -/

/-- Without globs every file passes. -/
theorem ofQuery_of_globless (globless : query.includes = [] ∧ query.excludes = []) :
    PathFilter.ofQuery query = .ok ⟨[], []⟩ := by
  unfold PathFilter.ofQuery
  rw [globless.1, globless.2]
  rfl

/-- The search of a root that can read its files succeeds. -/
theorem walk_ok_of_workspace {hashed : List Source} {caches : Caches}
    (directory : engine.files.isDirectory root = true)
    (globless : query.includes = [] ∧ query.excludes = [])
    (reached : Reached engine.config engine.analyzer hashed caches)
    (compiles : engine.analyzer.PatternsCompile) {fs : FileSystem} {user : UserOptions}
    {repositories : Repositories}
    (workspace : engine.source = workspaceSource fs user repositories) :
    ∃ report, ((engine.walk root query).runFrom caches).1 = .ok report := by
  cases walked : ((engine.walk root query).runFrom caches).1 with
  | ok report => exact ⟨report, rfl⟩
  | error error =>
    obtain ⟨missing, _⟩ | ⟨_, fault, refused, _⟩ | ⟨_, _, _, stops⟩ :=
      (walk_eq_error compiles root query (reached.patternsSound compiles) error).mp walked
    · cases missing.symm.trans directory
    · have failed := PathFilter.ofQuery_eq_error.mpr ⟨fault, refused, rfl⟩
      cases failed.symm.trans (ofQuery_of_globless globless)
    · exact absurd stops (not_stopsAt_of_workspace workspace)

/-- A search of a subdirectory without globs and ignore rules finds exactly what the search of
the root finds in files that are displayed below it, in the same order, and meets exactly the
failures that the search of the root meets below it, which it reports without the way to the
subdirectory. With a workspace behind it and patterns that compile, the search of the root
succeeds. -/
theorem walk_below (engine : Engine) (root : String) (location : Location) (sub : List String)
    (query : Query) (hashed others : List Source) (caches elsewhere : Caches)
    (way : engine.LeadsBelow root location sub) (wellNamed : engine.files.root.WellNamed)
    (unfiltered : engine.config.respectGitignore = false)
    (globless : query.includes = [] ∧ query.excludes = [])
    (unescaped : ∀ names ∈ engine.listing root, ∀ name ∈ names, '\\' ∉ name.toList)
    (reached : Reached engine.config engine.analyzer hashed caches)
    (alsoReached : Reached engine.config engine.analyzer others elsewhere)
    (separated : Sha256.Separates
      ((hashed ++ others ++ engine.walkSources root query caches).map Source.message))
    (plain : ∀ source ∈ hashed ++ others ++ engine.walkSources root query caches,
      source.Plain) :
    (∀ fs user repositories, engine.analyzer.PatternsCompile →
      engine.source = workspaceSource fs user repositories →
        ∃ report, ((engine.walk root query).runFrom caches).1 = .ok report) ∧
    ∀ report, ((engine.walk root query).runFrom caches).1 = .ok report →
      report.results.length < query.maxResults →
        let within := report.results.filter fun hit =>
          Text.startsWith (Path.below root sub ++ "/") hit.filePath
        ∀ cap, within.length < cap → ∃ inner,
          ((engine.walk (Path.below root sub) { query with maxResults := cap }).runFrom
            elsewhere).1 = .ok inner ∧
          inner.results = within ∧
          inner.failures.map (FileFailure.under sub) = report.failures.filter fun failure =>
            Text.startsWith (Text.join "/" sub ++ "/") failure.path := by
  constructor
  · intro fs user repositories compiles workspace
    have directory : engine.files.isDirectory root = true := by
      unfold FileSystem.isDirectory
      rw [way.resolved]
      exact FileSystem.isDirectoryAt_of_append way.directory
    exact walk_ok_of_workspace directory globless reached compiles workspace
  · intro report walked ample within cap room
    have apart := Source.apart_of_separates separated plain
    have known : hashed ++ others ++ engine.walkSources root query caches ⊆
        hashed ++ others ++ engine.walkSources root query caches := List.Subset.refl _
    obtain ⟨before, here⟩ := List.append_subset.mp known
    obtain ⟨earlier, beside⟩ := List.append_subset.mp before
    obtain ⟨filter, outcomes, read, given, results, failures⟩ :=
      exists_gives_of_walk apart (reached.sound apart earlier) here walked ample
    cases read.symm.trans (ofQuery_of_globless globless)
    have agree : ∀ file ∈ engine.candidates root query ⟨[], []⟩ (engine.listing root),
        Text.startsWith (Text.join "/" sub ++ "/") file.relative =
          Text.startsWith (Path.below root sub ++ "/") file.path := fun _ member =>
      way.startsWith_agree wellNamed unfiltered unescaped (mem_candidates.mp member).1
    obtain ⟨kept, gave, matched, failed⟩ := exists_gives_filter
      (Text.startsWith (Path.below root sub ++ "/")) (Text.startsWith (Text.join "/" sub ++ "/"))
      (fun _ _ => rfl) agree given
    rw [way.filter_candidates wellNamed unfiltered unescaped] at gave failed
    rw [failuresOf_under] at failed
    have gave := (List.forall₂_map_left_iff (f := Candidate.under sub)).mp gave
    have matched : kept.flatMap FileOutcome.results = within := by rw [matched, ← results]
    rw [← matched] at room
    obtain ⟨inner, searched, found, faults⟩ := walk_of_gives way.usable
      (ofQuery_of_globless globless) gave (alsoReached.sound apart beside) room
    refine ⟨inner, searched, found.trans matched, ?_⟩
    rw [faults, failed, failures]

/-- An engine without ignore rules for a directory that holds a file with one call and a
directory with another. -/
def nestedCalls : Engine where
  config := { respectGitignore := false }
  analyzer := twoCalls.analyzer
  files.root := .directory
    [("b.py", .file "g()".toUTF8), ("p", .directory [("a.py", .file "f()".toUTF8)])]
  source path _ := if path = "/p/a.py" then .ok "f()".toUTF8 else .ok "g()".toUTF8

/-- The call of the inner file is what a search of the inner directory finds, and a search of
the root finds below it. -/
theorem walk_below_nestedCalls :
    ∃ report inner,
      ((nestedCalls.walk "/" anyCall).runFrom nestedCalls.freshCaches).1 = .ok report ∧
      ((nestedCalls.walk "/p" anyCall).runFrom nestedCalls.freshCaches).1 = .ok inner ∧
      report.results.map Match.filePath = ["/b.py", "/p/a.py"] ∧
      inner.results.map Match.filePath = ["/p/a.py"] ∧
      inner.results = report.results.filter fun hit => Text.startsWith "/p/" hit.filePath := by
  have resolved : nestedCalls.files.resolve "/" = .ok [] := resolve_root rfl
  have inner : nestedCalls.files.resolve "/p" = .ok ["p"] := by
    change FileSystem.resolveNames nestedCalls.files .present 40 [] ["", "p"] = .ok ["p"]
    have last : nestedCalls.files.resolveNames .present 40 ["p"] [] = .ok ["p"] := by
      rw [FileSystem.resolveNames]
    have name : nestedCalls.files.resolveNames .present 40 [] ["p"] = .ok ["p"] := by
      rw [FileSystem.resolveNames]
      exact last
    rw [FileSystem.resolveNames]
    exact name
  have directory : nestedCalls.files.isDirectory "/" = true := by
    unfold FileSystem.isDirectory
    rw [resolved]
    rfl
  have way : nestedCalls.LeadsBelow "/" [] ["p"] := by
    refine ⟨resolved, List.cons_ne_nil _ _, rfl, by decide, ?_⟩
    change nestedCalls.files.isDirectory "/p" = true
    unfold FileSystem.isDirectory
    rw [inner]
    rfl
  have wellNamed : nestedCalls.files.root.WellNamed := by decide +kernel
  have listing : nestedCalls.listing "/" = [["b.py"], ["p", "a.py"]] := by
    rw [listing_eq rfl resolved]
    rfl
  have unescaped : ∀ names ∈ nestedCalls.listing "/", ∀ name ∈ names, '\\' ∉ name.toList := by
    rw [listing]
    decide +kernel
  have started : Reached nestedCalls.config nestedCalls.analyzer [] nestedCalls.freshCaches :=
    .fresh
  have files : nestedCalls.candidates "/" anyCall ⟨[], []⟩ (nestedCalls.listing "/") =
      [⟨"b.py", "/b.py"⟩, ⟨"p/a.py", "/p/a.py"⟩] := by
    rw [listing]
    exact List.mergeSort_of_pairwise (by decide)
  have read : PathFilter.ofQuery anyCall = .ok ⟨[], []⟩ := rfl
  have sources : nestedCalls.walkSources "/" anyCall nestedCalls.freshCaches =
      [⟨"/b.py", ⟨.python, "g()"⟩⟩, ⟨"/p/a.py", ⟨.python, "f()"⟩⟩] := by
    simp only [walkSources, directory, read, files]
    decide +kernel
  have found : (((nestedCalls.visit anyCall {}
      [⟨"b.py", "/b.py"⟩, ⟨"p/a.py", "/p/a.py"⟩]).runFrom nestedCalls.freshCaches).1.toOption.map
        fun report => report.results.map Match.filePath) = some ["/b.py", "/p/a.py"] := by
    decide +kernel
  rw [← files, visit_eq_visitLog, Analysis.runFrom_map, ← walkLog_of_directory directory read,
    ← Analysis.runFrom_map, ← walk_eq_walkLog] at found
  obtain ⟨_, inside⟩ := walk_below nestedCalls "/" [] ["p"] anyCall [] [] _ _ way wellNamed rfl
    ⟨rfl, rfl⟩ unescaped started started (by rw [sources]; decide +kernel)
    (by rw [sources]; decide +kernel)
  cases walked : ((nestedCalls.walk "/" anyCall).runFrom nestedCalls.freshCaches).1 with
  | error error =>
    rw [walked] at found
    cases found
  | ok report =>
    rw [walked] at found
    have paths : report.results.map Match.filePath = ["/b.py", "/p/a.py"] :=
      Option.some.inj found
    have two : report.results.length = 2 := by
      rw [← List.length_map (f := Match.filePath), paths]
      rfl
    have ample : report.results.length < anyCall.maxResults := by
      rw [two]
      decide
    have fewer := List.length_filter_le
      (fun hit : Match => Text.startsWith (Path.below "/" ["p"] ++ "/") hit.filePath) report.results
    obtain ⟨found, searched, results, _⟩ := inside report walked ample anyCall.maxResults
      (Nat.lt_of_le_of_lt fewer ample)
    have shown : found.results.map Match.filePath =
        (report.results.map Match.filePath).filter (Text.startsWith "/p/") := by
      rw [results, List.filter_map]
      rfl
    refine ⟨report, found, rfl, searched, paths, ?_, results⟩
    rw [shown, paths]
    decide

end Engine

end CodeAtlas
