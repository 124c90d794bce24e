import CodeAtlas.Text.Basic

/-!
# Configuration

The defaults of an engine. Each setting can be given by an environment variable; a
number that cannot be read leaves its default in place.
-/

namespace CodeAtlas

/-- The largest machine word plus one; counts in requests and settings are below it. -/
def wordLimit : Nat := Nat.pow 2 64

/-- The defaults of an engine. -/
structure Config where
  /-- The cap on results when a request has none of its own. -/
  maxResults : Nat := 100
  /-- The number of lines shown around a match. -/
  contextLines : Nat := 3
  /-- The number of parsed trees kept in memory. -/
  treeCacheSize : Nat := 256
  /-- Whether ignore files and hidden names filter directory listings. -/
  respectGitignore : Bool := false
  deriving DecidableEq, Repr

namespace Config

/-- The value of a digit list read from the left; none when a character is no digit. -/
def digitsValue? (digits : List Char) : Option Nat :=
  digits.foldl
    (fun value c => value.bind fun n =>
      if '0' ≤ c ∧ c ≤ '9' then some (n * 10 + (c.toNat - 48)) else none)
    (some 0)

/-- Reads a count: decimal digits, after one plus sign if any, below the word limit. -/
def parseCount? (text : String) : Option Nat :=
  let digits := match text.toList with
    | '+' :: rest => rest
    | digits => digits
  if digits.isEmpty then none else (digitsValue? digits).filter (· < wordLimit)

/-- The values that switch a setting on. -/
def affirmatives : List String := ["1", "true", "yes"]

/-- The configuration given by environment variables. -/
def ofEnvironment (lookup : String → Option String) : Config :=
  let defaults : Config := {}
  let number (key : String) (fallback : Nat) : Nat :=
    ((lookup key).bind fun value => parseCount? (Text.trim value)).getD fallback
  { maxResults := number "CODE_EXTRACTOR_MAX_RESULTS" defaults.maxResults
    contextLines := number "CODE_EXTRACTOR_CONTEXT_LINES" defaults.contextLines
    treeCacheSize := max (number "CODE_EXTRACTOR_TREE_CACHE_SIZE" defaults.treeCacheSize) 1
    respectGitignore :=
      ((lookup "CODE_EXTRACTOR_RESPECT_GITIGNORE").map fun value =>
        affirmatives.contains (Text.lower (Text.trim value))).getD defaults.respectGitignore }

end Config

end CodeAtlas
