import CodeAtlas.Proofs.Caches.Sound
import CodeAtlas.Proofs.Engine.Complete

/-!
# What was just parsed is found again

Right after a text is parsed its tree is in the cache, whatever the cache held before and
whatever had to make room. A second look at the same text therefore sees the same tree and
changes nothing. This needs no assumption about the caches or about digests.
-/

namespace CodeAtlas

namespace TreeCache

/-- A key under which nothing is found is not present. -/
theorem has_eq_false {cache : TreeCache} {key : String} (absent : cache.get? key = none) :
    cache.has key = false := by
  have none := Option.map_eq_none_iff.mp absent
  rw [List.find?_eq_none] at none
  rw [← Bool.not_eq_true]
  intro present
  obtain ⟨entry, member, same⟩ := List.any_eq_true.mp present
  exact none entry member same

/-- A tree is found under the new key it was added under. -/
theorem get?_insert {cache : TreeCache} {key : String} (tree : Node)
    (absent : cache.get? key = none) : (cache.insert key tree).get? key = some tree := by
  have earlier := List.find?_eq_none.mp (Option.map_eq_none_iff.mp absent)
  have kept : ((evict cache.capacity cache.order cache.trees).2.find? fun entry =>
      entry.1 = key) = none := by
    rw [List.find?_eq_none]
    exact fun entry member => earlier entry (evict_subset _ _ _ member)
  unfold insert
  rw [has_eq_false absent]
  simp [get?, List.find?_append, kept]

end TreeCache

namespace Analyzer

variable {analyzer : Analyzer} {identity : String} {unit : SourceUnit} {caches after : Caches}

/-- A supported text is parsed unless its tree is in the cache. -/
theorem parse_runFrom (supported : analyzer.registry.supports unit.language = true)
    (identity : String) (caches : Caches) :
    (analyzer.parse identity unit).runFrom caches =
      let key := Fingerprint.key identity unit.language unit.text
      match caches.trees.get? key, analyzer.parser.tree? unit.language unit.text with
      | some tree, _ => (.ok ⟨tree, unit.language, key⟩, caches)
      | none, some tree =>
        (.ok ⟨tree, unit.language, key⟩, { caches with trees := caches.trees.insert key tree })
      | none, none => (.error (.parseFailure ("parser gave up on " ++ identity)), caches) := by
  have required : analyzer.registry.require unit.language = .ok () := by
    simp [Registry.require, supported]
  unfold parse
  rw [required, Analysis.runFrom_bind_ok (Analysis.runFrom_ofExcept (.ok ()) caches),
    Analysis.runFrom_bind_ok (Analysis.runFrom_get caches)]
  cases found : caches.trees.get? (Fingerprint.key identity unit.language unit.text) with
  | some tree =>
    simp only [found]
    rfl
  | none =>
    simp only [found]
    cases analyzer.parser.tree? unit.language unit.text <;> rfl

/-- A text that is parsed has a supported language. -/
theorem supports_of_parse {parsed : ParsedTree}
    (done : (analyzer.parse identity unit).runFrom caches = (.ok parsed, after)) :
    analyzer.registry.supports unit.language = true := by
  unfold parse at done
  obtain ⟨_, _, required, _⟩ := Analysis.runFrom_bind_eq_ok done
  rw [Analysis.runFrom_ofExcept] at required
  unfold Registry.require at required
  split at required
  · assumption
  · cases required

/-- Parsing a text once more finds the same tree and changes nothing. -/
theorem parse_again {parsed : ParsedTree}
    (done : (analyzer.parse identity unit).runFrom caches = (.ok parsed, after)) :
    (analyzer.parse identity unit).runFrom after = (.ok parsed, after) := by
  have supported := supports_of_parse done
  rw [parse_runFrom supported] at done ⊢
  simp only at done ⊢
  cases found : caches.trees.get? (Fingerprint.key identity unit.language unit.text) with
  | some tree =>
    rw [found] at done
    cases done
    rw [found]
  | none =>
    cases grown : analyzer.parser.tree? unit.language unit.text with
    | none =>
      rw [found, grown] at done
      cases done
    | some tree =>
      rw [found, grown] at done
      cases done
      simp only [TreeCache.get?_insert tree found]

/-- The symbols of a text are the outline of the tree that parsing it gives. -/
theorem symbols_eq_ok {listed : List Symbol}
    (done : (analyzer.symbols identity unit).runFrom caches = (.ok listed, after)) :
    ∃ parsed, (analyzer.parse identity unit).runFrom caches = (.ok parsed, after) ∧
      analyzer.outline parsed unit = .ok listed ∧
      listed = Outline.symbols unit.language.grammar unit.text parsed.tree := by
  obtain ⟨parsed, between, grown, outlined⟩ := Analysis.runFrom_bind_eq_ok done
  obtain ⟨same, rfl⟩ := Prod.mk.inj outlined
  refine ⟨parsed, grown, same, ?_⟩
  have required : analyzer.registry.require unit.language = .ok () := by
    simp [Registry.require, supports_of_parse grown]
  unfold outline at same
  rw [required] at same
  exact (Except.ok.inj same).symm

/-- A text that is parsed has the outline of its tree for its symbols. -/
theorem symbols_of_parse {parsed : ParsedTree}
    (done : (analyzer.parse identity unit).runFrom caches = (.ok parsed, after)) :
    (analyzer.symbols identity unit).runFrom caches =
      (.ok (Outline.symbols unit.language.grammar unit.text parsed.tree), after) := by
  have required : analyzer.registry.require unit.language = .ok () := by
    simp [Registry.require, supports_of_parse done]
  unfold symbols
  rw [Analysis.runFrom_bind_ok done]
  unfold outline
  rw [required]
  rfl

/-- A supported text whose tree is not in the cache is parsed. -/
theorem parse_of_absent {tree : Node} (identity : String)
    (supported : analyzer.registry.supports unit.language = true)
    (absent : caches.trees.get? (Fingerprint.key identity unit.language unit.text) = none)
    (grown : analyzer.parser.tree? unit.language unit.text = some tree) :
    ∃ parsed after, (analyzer.parse identity unit).runFrom caches = (.ok parsed, after) ∧
      parsed.tree = tree := by
  have parses := parse_runFrom supported identity caches
  simp only [absent, grown] at parses
  exact ⟨_, _, parses, rfl⟩

/-- The symbols of a supported text whose tree is not in the cache are the outline of the
tree that the parser gives. -/
theorem symbols_of_absent {tree : Node} (identity : String)
    (supported : analyzer.registry.supports unit.language = true)
    (absent : caches.trees.get? (Fingerprint.key identity unit.language unit.text) = none)
    (grown : analyzer.parser.tree? unit.language unit.text = some tree) :
    ∃ after, (analyzer.symbols identity unit).runFrom caches =
      (.ok (Outline.symbols unit.language.grammar unit.text tree), after) := by
  obtain ⟨_, after, parses, rfl⟩ := parse_of_absent identity supported absent grown
  exact ⟨after, symbols_of_parse parses⟩

/-- Listing the symbols of a text once more gives the same list and changes nothing. -/
theorem symbols_again {listed : List Symbol}
    (done : (analyzer.symbols identity unit).runFrom caches = (.ok listed, after)) :
    (analyzer.symbols identity unit).runFrom after = (.ok listed, after) := by
  obtain ⟨parsed, grown, outlined, _⟩ := symbols_eq_ok done
  unfold symbols
  rw [Analysis.runFrom_bind_ok (parse_again grown), outlined]
  rfl

end Analyzer

end CodeAtlas
