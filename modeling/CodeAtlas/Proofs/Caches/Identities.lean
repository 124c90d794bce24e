import CodeAtlas.Engine
import CodeAtlas.Proofs.Caches.Steady

/-!
# Sources that share a key

Each source that is parsed through one cache gets its own tree, provided that SHA-256 does not
collide on the sources and that no identity runs over the language of another source into its
text. The second condition is needed: sources with such identities are hashed as the same
bytes, and the cache serves the tree of one for the other. An identity that runs over holds a
zero character and is longer than the other, so texts that are read under one identity, or
under paths, always have keys of their own.
-/

namespace CodeAtlas

/-- Steps with known results have them one after the other. -/
theorem Caches.serve_yields {analyzer : Analyzer} {known : List Source} {ι α : Type}
    {step : ι → StateM Caches α} {result : ι → α} {items : List ι}
    (each : ∀ item ∈ items, Yields analyzer known (step item) (result item)) :
    Yields analyzer known (serve step items) (items.map result) := by
  induction items with
  | nil => exact yields_pure []
  | cons item items ih =>
    obtain ⟨here, others⟩ := List.forall_mem_cons.mp each
    exact here.bind ((ih others).bind (yields_pure _))

namespace Source

/-- An identity that runs over a language is longer than the other identity. -/
theorem RunsOver.length_lt {short long : Source} (runs : short.RunsOver long) :
    short.identity.length < long.identity.length := by
  obtain ⟨more, identity, -⟩ := runs
  have zero : "\x00".length = 1 := by decide
  rw [identity]
  simp only [String.length_append]
  omega

end Source

namespace Analyzer

/-- Parses sources through one cache, one after the other. -/
def parseAll (analyzer : Analyzer) :
    List Source → StateM Caches (List (Except SearchError ParsedTree)) :=
  Caches.serve fun source => (analyzer.parse source.identity source.unit).run

/-- The bytes that are hashed for two sources are the same exactly when the sources are, or when
the identity of one runs over the language of the other. Such an identity holds a zero character,
and so does the text it runs into, and the other identity is a shorter one. As long as none runs
over another and SHA-256 does not collide, whatever is parsed through a cache of any capacity is
parsed as without the cache. -/
theorem parse_tells_apart (analyzer : Analyzer) (capacity : Nat) :
    (∀ left right : Source, left.message = right.message ↔
      left = right ∨ left.RunsOver right ∨ right.RunsOver left) ∧
    (∀ short long : Source, short.RunsOver long →
      Char.ofNat 0 ∈ long.identity.toList ∧ Char.ofNat 0 ∈ short.unit.text.toList ∧
        short.identity.length < long.identity.length) ∧
    ∀ sources : List Source, Sha256.Separates (sources.map Source.message) →
      (∀ left ∈ sources, ∀ right ∈ sources, ¬ left.RunsOver right) →
      ((analyzer.parseAll sources).run (.fresh capacity)).1 =
        sources.map fun source => analyzer.parsed source.identity source.unit := by
  refine ⟨fun _ _ => Source.message_eq_iff_runsOver, ?_, ?_⟩
  · intro short long runs
    exact ⟨Decidable.not_not.mp runs.not_plain, runs.mem_text, runs.length_lt⟩
  · intro sources separated none
    have apart := Source.apart_of_not_runsOver separated none
    have each (source : Source) (member : source ∈ sources) :
        Caches.Yields analyzer sources (analyzer.parse source.identity source.unit).run
          (analyzer.parsed source.identity source.unit) := by
      refine parse_yields apart fun listed present => ?_
      unfold parsedSources at present
      split at present
      · rw [List.mem_singleton.mp present]
        exact member
      · cases present
    exact (Caches.serve_yields each _ (Caches.fresh_sound analyzer sources capacity)).1

/-- The tree of a text that begins with a call. -/
def calledTree : Node :=
  .mk "module" true "" 0 12
    [.mk "expression_statement" true "" 0 3
      [.mk "call" true "" 0 3
        [.mk "identifier" true "function" 0 1 [],
         .mk "argument_list" true "arguments" 1 3
          [.mk "(" false "" 1 2 [], .mk ")" false "" 2 3 []]]]]

/-- An analyzer for texts that begin with a call and for the empty text. -/
def calledAnalyzer : Analyzer where
  parser :=
    { tree? := fun _ text =>
        some (if text = "" then .mk "module" true "" 0 0 [] else calledTree)
      knowsKind := fun _ _ => true }

/-- Identities may hold zero characters as long as none runs over another. -/
theorem parse_tells_apart_named :
    let sources : List Source :=
      [⟨"a", ⟨.python, "f()"⟩⟩, ⟨"a\x00python", ⟨.python, ""⟩⟩, ⟨"a", ⟨.python, "g()"⟩⟩]
    Sha256.Separates (sources.map Source.message) ∧
      (∀ left ∈ sources, ∀ right ∈ sources, ¬ left.RunsOver right) ∧
      ((calledAnalyzer.parseAll sources).run (.fresh 2)).1 =
        sources.map fun source => calledAnalyzer.parsed source.identity source.unit := by
  intro sources
  have separated : Sha256.Separates (sources.map Source.message) := by decide +kernel
  have plain : ∀ left ∈ sources, Char.ofNat 0 ∉ left.unit.text.toList := by decide
  have none : ∀ left ∈ sources, ∀ right ∈ sources, ¬ left.RunsOver right :=
    fun left member _ _ runs => plain left member runs.mem_text
  exact ⟨separated, none, (parse_tells_apart calledAnalyzer 2).2.2 sources separated none⟩

/-- Two sources with an identity that runs over: the same bytes are hashed for both, and a
search of the one after a listing of the other misses the call that it finds at first. -/
theorem parse_tells_apart_stale :
    let engine : Engine := ⟨{}, calledAnalyzer, {}, fun path _ => .error (.notFound path)⟩
    let listed : Source := ⟨"a\x00python\x00f()\n", ⟨.python, ""⟩⟩
    let searched : Source := ⟨"a", ⟨.python, "f()\n\x00python\x00"⟩⟩
    let query : Query := { kind := .functionCalls, target := "f", scope := "" }
    let search := engine.searchSource searched.identity searched.unit query
    let after := ((calledAnalyzer.symbols listed.identity listed.unit).runFrom
      engine.freshCaches).2
    listed ≠ searched ∧ listed.message = searched.message ∧
      ((search.runFrom engine.freshCaches).1.toOption.map fun found =>
        found.map Match.text) = some ["f()"] ∧
      (search.runFrom after).1.toOption = some [] := by
  decide +kernel

end Analyzer

end CodeAtlas
