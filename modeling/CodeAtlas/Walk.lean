import CodeAtlas.Engine
import CodeAtlas.Glob.Expression
import CodeAtlas.IgnoreRules

/-!
# Directory searches

The files below a root are listed, filtered and sorted by their path from the root, and
then searched one after the other until the cap on results is used up. The cap is one
budget for the whole directory.
-/

namespace CodeAtlas

/-- Include and exclude globs. -/
structure PathFilter where
  includes : List Glob
  excludes : List Glob

namespace PathFilter

/-- Reads a set of globs. The first that cannot be read is reported, and once all are read
the first whose expression is nested too deep. A set is never too large: the limit on the
size of a compiled set, which only very long globs reach, is left out. -/
def readSet (texts : List String) : Except Glob.Error (List Glob) := do
  let globs ← texts.mapM Glob.parse
  Glob.checkSet globs
  return globs

/-- Reads the globs of a query, includes first; says what is wrong with the first bad
one. -/
def ofQuery (query : Query) : Except SearchError PathFilter :=
  Except.mapError .invalidGlob do
    return ⟨← readSet query.includes, ← readSet query.excludes⟩

/-- Whether one of the globs matches a path from the root, or the bare file name. -/
def hits (globs : List Glob) (relative : String) : Bool :=
  globs.any fun glob => glob.isMatch false relative || glob.isMatch false (Path.baseName relative)

/-- Whether a file passes: it matches an include, if there is one, and no exclude. -/
def accepts (filter : PathFilter) (relative : String) : Bool :=
  (filter.includes.isEmpty || hits filter.includes relative) && !hits filter.excludes relative

end PathFilter

/-- A file to be searched: its path from the root, and its full path. -/
structure Candidate where
  relative : String
  path : String
  deriving DecidableEq, Repr

/-- The candidate of a listed file, given by its names below the root. -/
def Candidate.ofNames (root : String) (names : List String) : Candidate :=
  ⟨Text.replaceChar '\\' '/' (Text.join "/" names), Path.below root names⟩

/-- The order in which candidates are visited. -/
def Candidate.precedes (a b : Candidate) : Bool := a.relative ≤ b.relative

/-- A report with the outcome of one more file. -/
def Report.add (report : Report) (file : Candidate) : FileOutcome → Report
  | .searched found =>
    { report with
      results := report.results ++ found
      filesSearched := report.filesSearched + 1 }
  | .skipped _ => { report with filesSkipped := report.filesSkipped + 1 }
  | .failed reason =>
    { report with failures := report.failures ++ [⟨file.relative, reason⟩] }

namespace Engine

/-- The files listed below a directory, by their names. -/
def listing (engine : Engine) (root : String) : List (List String) :=
  match engine.files.resolve root with
  | .error _ => []
  | .ok location =>
    let files := engine.files.filesBelow location
    if engine.config.respectGitignore then
      let listing := IgnoreRules.Listing.ofRoot engine.files root location
      files.filter fun names => !listing.hides names
    else files

/-- The listed files that pass the filter and whose language is known, in visiting
order. -/
def candidates (engine : Engine) (root : String) (query : Query) (filter : PathFilter)
    (listed : List (List String)) : List Candidate :=
  let files := listed.map (Candidate.ofNames root)
  let passing := files.filter fun file => filter.accepts file.relative
  let known := passing.filter fun file => (engine.resolveLanguage? file.path query).isSome
  known.mergeSort Candidate.precedes

/-- Visits candidates until the cap is used up. -/
def visit (engine : Engine) (query : Query) : Report → List Candidate → Analysis Report
  | report, [] => return report
  | report, file :: files => do
    let remaining := query.maxResults - report.results.length
    if remaining = 0 then return { report with truncated := true }
    let outcome ← engine.fileOutcome file.path query remaining
    engine.visit query (report.add file outcome) files

/-- Searches a directory. -/
def walk (engine : Engine) (root : String) (query : Query) : Analysis Report := do
  if !engine.files.isDirectory root then throw (.notFound root)
  let filter ← ExceptT.mk (pure (PathFilter.ofQuery query))
  engine.visit query {} (engine.candidates root query filter (engine.listing root))

/-- The matches of a directory. -/
def searchDirectory (engine : Engine) (root : String) (query : Query) : Analysis (List Match) := do
  return (← engine.walk root query).results

/-- The matches of the query's scope, a file or a directory. -/
def search (engine : Engine) (query : Query) : Analysis (List Match) :=
  if engine.files.isDirectory query.scope then engine.searchDirectory query.scope query
  else engine.searchFile query.scope query

end Engine

end CodeAtlas
