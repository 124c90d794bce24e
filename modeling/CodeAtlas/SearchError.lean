import CodeAtlas.Glob.Token

/-!
# Search errors

What can go wrong while reading, parsing and searching. Most errors concern one
file only and are recorded with it; an invalid pattern or an invalid glob concerns
the whole request.
-/

namespace CodeAtlas

/-- Why a search or a lookup failed. -/
inductive SearchError where
  /-- No language answers to the name. -/
  | unsupportedLanguage (name : String)
  /-- A structural pattern does not fit the language's grammar. -/
  | invalidPattern (language message : String)
  /-- A path, revision or symbol does not resolve. -/
  | notFound (what : String)
  /-- The parser gave up; malformed source alone never causes this. -/
  | parseFailure (message : String)
  /-- The content is not decodable text. -/
  | binary (path : String)
  /-- An include or exclude glob cannot be read. -/
  | invalidGlob (error : Glob.Error)
  /-- The operating system refused. -/
  | io (message : String)
  /-- The repository refused. -/
  | git (message : String)
  deriving DecidableEq, Repr

namespace SearchError

/-- The words for an error. -/
def message : SearchError → String
  | .unsupportedLanguage name => "Unsupported language: " ++ name
  | .invalidPattern language message => "Invalid pattern for " ++ language ++ ": " ++ message
  | .notFound what => "Not found: " ++ what
  | .parseFailure message => "Parse failure: " ++ message
  | .binary path => "Binary content: " ++ path
  | .invalidGlob error => "Invalid glob pattern: " ++ error.message
  | .io message => "I/O error: " ++ message
  | .git message => "Git error: " ++ message

/-- The words for the error that caused this one, where there is one. -/
def cause? : SearchError → Option String
  | .invalidGlob error => some error.message
  | .io message => some message
  | .git message => some message
  | _ => none

/-- Whether an error concerns one file only and must not end a wider search. -/
def isPerFile : SearchError → Bool
  | .invalidPattern _ _ => false
  | .invalidGlob _ => false
  | _ => true

end SearchError

end CodeAtlas
