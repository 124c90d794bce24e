import CodeAtlas.Proofs.Fingerprint

/-!
# Sound caches

Caches are sound for a list of sources when every tree they hold is the parser's tree of
a source of the list, under the key of that source, and every pattern is what compiling
the call pattern of its language gives. Adding what was just computed keeps caches sound,
and so do eviction and clearing, which only drop entries.
-/

namespace CodeAtlas

/-- What is found in a list of entries stands there under the key it was asked for. -/
theorem mem_of_find?_key {κ β : Type} [DecidableEq κ] {entries : List (κ × β)} {key : κ}
    {value : β} (found : (entries.find? fun entry => entry.1 = key).map Prod.snd = some value) :
    (key, value) ∈ entries := by
  obtain ⟨⟨stored, held⟩, located, rfl⟩ := Option.map_eq_some_iff.mp found
  have same : stored = key := by simpa using List.find?_some located
  exact same ▸ List.mem_of_find?_eq_some located

namespace TreeCache

/-- Making room keeps only trees that were there. -/
theorem evict_subset (capacity : Nat) (order : List String) (trees : List (String × Node)) :
    (evict capacity order trees).2 ⊆ trees := by
  induction order generalizing trees with
  | nil => exact List.Subset.refl trees
  | cons oldest order ih =>
    unfold evict
    split
    · exact List.Subset.refl trees
    · exact List.Subset.trans (ih _) List.filter_sublist.subset

/-- After an insertion a cache holds the new tree and trees that were there before. -/
theorem mem_of_mem_insert {cache : TreeCache} {key : String} {tree : Node}
    {entry : String × Node} (present : entry ∈ (cache.insert key tree).trees) :
    entry ∈ cache.trees ∨ entry = (key, tree) := by
  unfold insert at present
  split at present
  · exact .inl present
  · rcases List.mem_append.mp present with kept | added
    · exact .inl (evict_subset _ _ _ kept)
    · exact .inr (List.mem_singleton.mp added)

end TreeCache

/-- What compiling the call pattern of a language gives. -/
def Analyzer.callPattern (analyzer : Analyzer) (language : Language) :
    Except SearchError CompiledPattern :=
  Pattern.compile (analyzer.parser.knowsKind language) language language.callPattern

namespace Caches

/-- Every entry of the caches is what computing it anew gives. -/
structure Sound (analyzer : Analyzer) (known : List Source) (caches : Caches) : Prop where
  /-- Every tree is the tree of a known source, under its key. -/
  trees : ∀ entry ∈ caches.trees.trees, ∃ source ∈ known, entry.1 = source.key ∧
    analyzer.parser.tree? source.unit.language source.unit.text = some entry.2
  /-- Every pattern is the compiled call pattern of its language. -/
  patterns : ∀ entry ∈ caches.patterns.entries, analyzer.callPattern entry.1.1 = .ok entry.2

variable {analyzer : Analyzer} {known : List Source} {caches : Caches}

/-- New caches are sound. -/
theorem fresh_sound (analyzer : Analyzer) (known : List Source) (capacity : Nat) :
    (fresh capacity).Sound analyzer known where
  trees _ present := absurd present List.not_mem_nil
  patterns _ present := absurd present List.not_mem_nil

/-- Cleared caches are sound. -/
theorem clear_sound (analyzer : Analyzer) (known : List Source) (caches : Caches) :
    caches.clear.Sound analyzer known where
  trees _ present := absurd present List.not_mem_nil
  patterns _ present := absurd present List.not_mem_nil

/-- Caches stay sound when the tree of a known source is added. -/
theorem Sound.addTree (sound : caches.Sound analyzer known) {source : Source} {tree : Node}
    (member : source ∈ known)
    (parsed : analyzer.parser.tree? source.unit.language source.unit.text = some tree) :
    { caches with trees := caches.trees.insert source.key tree }.Sound analyzer known where
  trees entry present := by
    rcases TreeCache.mem_of_mem_insert present with kept | rfl
    · exact sound.trees entry kept
    · exact ⟨source, member, rfl, parsed⟩
  patterns := sound.patterns

/-- Caches stay sound when the compiled call pattern of a language is added. -/
theorem Sound.addPattern (sound : caches.Sound analyzer known) {language : Language}
    (key : String) {pattern : CompiledPattern}
    (compiled : analyzer.callPattern language = .ok pattern) :
    { caches with patterns := caches.patterns.insert (language, key) pattern }.Sound
      analyzer known where
  trees := sound.trees
  patterns entry present := by
    rcases List.mem_append.mp present with kept | added
    · exact sound.patterns entry kept
    · obtain rfl := List.mem_singleton.mp added
      exact compiled

/-- A tree found under the key of a known source is the tree of that source, where keys
tell the known sources apart. -/
theorem Sound.tree_eq (sound : caches.Sound analyzer known)
    (apart : Source.Apart known)
    {source : Source} {tree : Node} (member : source ∈ known)
    (found : caches.trees.get? source.key = some tree) :
    analyzer.parser.tree? source.unit.language source.unit.text = some tree := by
  obtain ⟨origin, listed, same, parsed⟩ := sound.trees _ (mem_of_find?_key found)
  rw [apart source member origin listed same]
  exact parsed

/-- A pattern found for a language is its compiled call pattern. -/
theorem Sound.pattern_eq (sound : caches.Sound analyzer known) {language : Language}
    {key : String} {pattern : CompiledPattern}
    (found : caches.patterns.get? (language, key) = some pattern) :
    analyzer.callPattern language = .ok pattern :=
  sound.patterns ((language, key), pattern) (mem_of_find?_key found)

end Caches

end CodeAtlas
