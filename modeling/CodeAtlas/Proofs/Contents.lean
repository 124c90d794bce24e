import CodeAtlas.Proofs.Engine.Cap
import CodeAtlas.Proofs.Server.Reached

/-!
# Contents

What a search finds in a file depends on the bytes that are read for its path, and not on
where they come from: another source of content, or another revision, that gives the same
bytes gives the same outcome. A search of the file is also the search of its text in
memory.
-/

namespace CodeAtlas

/-- No bytes are the empty text. -/
theorem decodeText_empty (path : String) : decodeText path ByteArray.empty = .ok "" := by
  rfl

namespace Engine

variable {engine : Engine} {path : String} {query : Query}

/-- A file that is searched for its matches alone has the matches of its outcome. -/
theorem searchFile_eq_map (engine : Engine) (path : String) (query : Query) :
    engine.searchFile path query =
      FileOutcome.results <$> engine.fileOutcome path query query.maxResults :=
  (map_eq_pure_bind _ _).symm

/-- Reading a file uses the bytes of its path alone. -/
theorem fileOutcome_congr {other : ContentSource} {revision : Option String}
    (same : other path revision = engine.source path query.revision) (cap : Nat) :
    { engine with source := other }.fileOutcome path { query with revision } cap =
      engine.fileOutcome path query cap := by
  unfold fileOutcome
  simp only [same]
  rfl

/-- An error that concerns one file leaves no matches. -/
theorem results_contain (error : SearchError) :
    FileOutcome.results <$> (ExceptT.mk (pure (contain error)) : Analysis FileOutcome) =
      if error.isPerFile then pure [] else throw error := by
  unfold contain
  split <;> rfl

/-- The text of a file is decoded from its bytes. -/
theorem readText_eq_ok {revision : Option String} {text : String} :
    engine.readText path revision = .ok text ↔
      ∃ content, engine.source path revision = .ok content ∧ decodeText path content = .ok text := by
  unfold readText
  cases engine.source path revision with
  | error error => simp [bind, Except.bind]
  | ok content => simp [bind, Except.bind]

/-- A search of a file that is a text is the search of its text. -/
theorem searchFile_eq_searchSource {language : Language} {text : String}
    (resolved : engine.resolveLanguage? path query = some language)
    (read : engine.readText path query.revision = .ok text) :
    engine.searchFile path query = engine.searchSource path ⟨language, text⟩ query := by
  obtain ⟨content, given, decoded⟩ := readText_eq_ok.mp read
  rw [searchFile_eq_map]
  unfold fileOutcome searchSource
  simp only [resolved, given]
  split
  · -- No bytes are a blank text, which is not searched either.
    rename_i nothing
    obtain rfl : content = ByteArray.empty :=
      ByteArray.ext (Array.eq_empty_of_size_eq_zero (by simpa [ByteArray.isEmpty] using nothing))
    cases (decodeText_empty path).symm.trans decoded
    rfl
  · simp only [decoded]
    split
    · rfl
    · rw [Analysis.map_tryCatch]
      simp only [results_contain, map_bind, map_pure, FileOutcome.results, bind_pure]

/-- What becomes of a file depends on the bytes that are read for its path alone. With
another source of content and another revision that give the same for it, a search of the
file is the same piece of work, whatever its cap. If the file is a text of a known
language, searching it is the same piece of work as searching the text in memory, under the
path. From whatever caches two engines can be in the results are the same as well, provided
that SHA-256 does not collide on what was hashed before and the text, and that no identity
holds a zero character. -/
theorem fileOutcome_by_content (engine : Engine) (other : ContentSource) (path : String)
    (query : Query) (revision : Option String) (cap : Nat)
    (same : other path revision = engine.source path query.revision) :
    let beside : Engine := { engine with source := other }
    let moved : Query := { query with revision }
    beside.fileOutcome path moved cap = engine.fileOutcome path query cap ∧
    (∀ language text, engine.resolveLanguage? path query = some language →
      engine.readText path query.revision = .ok text →
      engine.searchFile path query = engine.searchSource path ⟨language, text⟩ query) ∧
    ∀ hashed others caches elsewhere,
      Reached engine.config engine.analyzer hashed caches →
      Reached engine.config engine.analyzer others elsewhere →
      let sources := hashed ++ others ++ engine.fileSources path query cap ++
        engine.fileSources path query query.maxResults
      Sha256.Separates (sources.map Source.message) → (∀ source ∈ sources, source.Plain) →
      ((beside.fileOutcome path moved cap).runFrom elsewhere).1 =
        ((engine.fileOutcome path query cap).runFrom caches).1 ∧
      ∀ language text, engine.resolveLanguage? path query = some language →
        engine.readText path query.revision = .ok text →
        ((engine.searchSource path ⟨language, text⟩ query).runFrom elsewhere).1 =
          ((engine.searchFile path query).runFrom caches).1 := by
  intro beside moved
  have work : beside.fileOutcome path moved cap = engine.fileOutcome path query cap :=
    fileOutcome_congr same cap
  refine ⟨work, fun _ _ => searchFile_eq_searchSource, ?_⟩
  intro hashed others caches elsewhere reached alsoReached sources separated plain
  have apart := Source.apart_of_separates separated plain
  obtain ⟨earlier, whole⟩ := List.append_subset.mp (List.Subset.refl sources)
  obtain ⟨before, cut⟩ := List.append_subset.mp earlier
  obtain ⟨first, second⟩ := List.append_subset.mp before
  have sound := reached.sound apart first
  have alsoSound := alsoReached.sound apart second
  constructor
  · rw [work]
    exact ((fileOutcome_steady apart cut).yields sound elsewhere alsoSound).1
  · intro language text resolved read
    rw [← searchFile_eq_searchSource resolved read]
    exact ((searchFile_steady apart whole).yields sound elsewhere alsoSound).1

/-- A source of content that has the first file of `twoCalls` at a revision only. -/
def firstFileAtRevision : ContentSource :=
  recordedSource [⟨"/a.py", some "v1", .ok "f()".toUTF8⟩]

/-- The first file of `twoCalls` has the same call when it is read at that revision, and
when its text is searched in memory. -/
theorem fileOutcome_by_content_revision :
    let engine : Engine := { twoCalls with source := firstFileAtRevision }
    let query : Query := { anyCall with revision := some "v1" }
    engine.fileOutcome "/a.py" query 1 = twoCalls.fileOutcome "/a.py" anyCall 1 ∧
    ((twoCalls.searchSource "/a.py" ⟨.python, "f()"⟩ anyCall).runFrom twoCalls.freshCaches).1 =
      ((twoCalls.searchFile "/a.py" anyCall).runFrom twoCalls.freshCaches).1 ∧
    (((twoCalls.searchFile "/a.py" anyCall).runFrom twoCalls.freshCaches).1.toOption.map
      fun found => found.map Match.text) = some ["f()"] := by
  intro engine query
  have same : firstFileAtRevision "/a.py" (some "v1") =
      twoCalls.source "/a.py" anyCall.revision := by
    rfl
  have read : twoCalls.readText "/a.py" anyCall.revision = .ok "f()" := by
    exact readText_eq_ok.mpr ⟨_, rfl, rfl⟩
  have sources : twoCalls.fileSources "/a.py" anyCall 1 ++
      twoCalls.fileSources "/a.py" anyCall anyCall.maxResults =
        [⟨"/a.py", ⟨.python, "f()"⟩⟩, ⟨"/a.py", ⟨.python, "f()"⟩⟩] := by
    unfold fileSources
    rw [read]
    rfl
  have started : Reached twoCalls.config twoCalls.analyzer [] twoCalls.freshCaches := .fresh
  obtain ⟨work, _, results⟩ := fileOutcome_by_content twoCalls firstFileAtRevision "/a.py"
    anyCall (some "v1") 1 same
  obtain ⟨_, memory⟩ := results [] [] _ _ started started
    (by rw [List.append_nil, List.nil_append, sources]; decide +kernel)
    (by rw [List.append_nil, List.nil_append, sources]; decide +kernel)
  exact ⟨work, memory .python "f()" rfl read, by decide +kernel⟩

end Engine

end CodeAtlas
