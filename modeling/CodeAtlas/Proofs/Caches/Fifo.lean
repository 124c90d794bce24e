import CodeAtlas.Proofs.Caches.Recall
import Mathlib.Data.List.DropRight
import Mathlib.Logic.Relation

/-!
# First in, first out

The tree cache keeps its trees in a map and their keys in a queue. Both are kept in step by
every insertion and every clearing: the cache always holds the last trees that arrived, as many
as it has room for, and the queue holds their keys in the order of arrival. Eviction therefore
stops because there is room again and never because the queue has run dry. Parses that run
side by side look up and insert one at a time, so their cache is one that insertions and
clearings lead to as well.
-/

namespace CodeAtlas

namespace TreeCache

variable {cache : TreeCache} {key : String} {tree : Node} {trees : List (String × Node)}
  {capacity room : Nat}

/-! ## Changes and arrivals -/

/-- What changes a cache. -/
inductive Change where
  | insert (key : String) (tree : Node)
  | clear

/-- A cache after a change. -/
def apply (cache : TreeCache) : Change → TreeCache
  | .insert key tree => cache.insert key tree
  | .clear => cache.clear

/-- A cache after changes, the first one first. -/
def replay (cache : TreeCache) (changes : List Change) : TreeCache := changes.foldl apply cache

/-- The trees that have arrived since the last clearing, after one more change. A tree arrives
unless its key is that of one of the last trees for which there is room. -/
def arrive (room : Nat) (arrived : List (String × Node)) : Change → List (String × Node)
  | .insert key tree =>
    if key ∈ (arrived.rtake room).map Prod.fst then arrived else arrived ++ [(key, tree)]
  | .clear => []

/-- The trees that arrive by changes of an empty cache, oldest first. -/
def arrivals (room : Nat) (changes : List Change) : List (String × Node) :=
  changes.foldl (arrive room) []

/-- A key is present when some tree stands under it. -/
theorem has_eq_true : cache.has key = true ↔ key ∈ cache.trees.map Prod.fst := by
  simp [has]

/-! ## Eviction -/

/-- One round of eviction: the cache is full, and the oldest key and its tree go. -/
inductive Evicts (capacity : Nat) :
    List String × List (String × Node) → List String × List (String × Node) → Prop
  | oldest {key : String} {order : List String} {trees : List (String × Node)}
      (full : capacity ≤ trees.length) :
      Evicts capacity (key :: order, trees) (order, trees.filter fun entry => entry.1 ≠ key)

/-- Eviction goes round by round. -/
theorem evict_reached (capacity : Nat) (order : List String) (trees : List (String × Node)) :
    Relation.ReflTransGen (Evicts capacity) (order, trees) (evict capacity order trees) := by
  induction order generalizing trees with
  | nil => exact .refl
  | cons oldest order ih =>
    unfold evict
    split
    · exact .refl
    · rename_i full
      exact .head (.oldest (Nat.le_of_not_lt full)) (ih _)

/-- Without the tree under its oldest key a map with different keys holds the others. -/
theorem filter_oldest {entry : String × Node} (different : ((entry :: trees).map Prod.fst).Nodup) :
    ((entry :: trees).filter fun other => other.1 ≠ entry.1) = trees := by
  obtain ⟨absent, -⟩ := List.nodup_cons.mp different
  rw [List.filter_cons_of_neg (by simp), List.filter_eq_self]
  intro other member
  have other_ne : other.1 ≠ entry.1 := fun same => absent (same ▸ List.mem_map_of_mem member)
  simpa using other_ne

/-- As long as queue and map are in step, eviction leaves the last trees in both. -/
theorem evicts_drop {state : List String × List (String × Node)}
    (different : (trees.map Prod.fst).Nodup)
    (reached : Relation.ReflTransGen (Evicts capacity) (trees.map Prod.fst, trees) state) :
    ∃ gone, state = ((trees.drop gone).map Prod.fst, trees.drop gone) := by
  induction reached with
  | refl => exact ⟨0, rfl⟩
  | tail _ round ih =>
    obtain ⟨gone, rfl⟩ := ih
    generalize left : trees.drop gone = rest at round
    generalize queue : rest.map Prod.fst = order at round
    cases round with
    | oldest full =>
      cases rest with
      | nil => cases queue
      | cons entry rest =>
        obtain ⟨rfl, rfl⟩ := List.cons.inj queue
        have later : trees.drop (gone + 1) = rest := by
          rw [← List.tail_drop, left, List.tail_cons]
        have kept : ((entry :: rest).map Prod.fst).Nodup := by
          rw [← left, List.map_drop]
          exact different.sublist (List.drop_sublist _ _)
        exact ⟨gone + 1, by rw [filter_oldest kept, later]⟩

/-- Eviction drops the oldest trees until there is room for one more, and no others. -/
theorem evict_eq_drop (capacity : Nat) (different : (trees.map Prod.fst).Nodup) :
    evict capacity (trees.map Prod.fst) trees =
      ((trees.drop (trees.length + 1 - capacity)).map Prod.fst,
        trees.drop (trees.length + 1 - capacity)) := by
  induction trees with
  | nil => simp [evict]
  | cons entry trees ih =>
    rw [List.map_cons, evict]
    split
    · rename_i roomy
      rw [Nat.sub_eq_zero_of_le roomy]
      rfl
    · rename_i full
      have more : (entry :: trees).length + 1 - capacity = trees.length + 1 - capacity + 1 := by
        rw [List.length_cons] at full ⊢
        omega
      rw [filter_oldest different, ih (List.nodup_cons.mp different).2, more, List.drop_succ_cons]

/-- Whether eviction ends because there is room again: no round leaves the queue dry while
the cache is full. -/
structure EndsWithRoom (room : Nat) (order : List String) (trees : List (String × Node)) :
    Prop where
  reached : Relation.ReflTransGen (Evicts room) (order, trees) (evict room order trees)
  fits : (evict room order trees).2.length < room
  dry : ∀ state, Relation.ReflTransGen (Evicts room) (order, trees) state →
    state.1 = [] → state.2.length < room

/-- As long as queue and map are in step, eviction ends because there is room again. -/
theorem endsWithRoom (positive : 0 < room) (different : (trees.map Prod.fst).Nodup) :
    EndsWithRoom room (trees.map Prod.fst) trees where
  reached := evict_reached room _ trees
  fits := by
    rw [evict_eq_drop room different, List.length_drop]
    omega
  dry state reached none := by
    obtain ⟨gone, rfl⟩ := evicts_drop different reached
    have empty : trees.drop gone = [] := List.map_eq_nil_iff.mp none
    simpa [empty] using positive

/-! ## The cache after changes -/

/-- Whether a cache holds the last trees of some arrivals, and its queue their keys. -/
structure HoldsLast (room : Nat) (arrived : List (String × Node)) (cache : TreeCache) : Prop where
  capacity : cache.capacity = room
  trees : cache.trees = arrived.rtake room
  order : cache.order = cache.trees.map Prod.fst
  different : cache.order.Nodup

/-- A present key changes nothing. -/
theorem insert_of_present (present : cache.has key = true) (tree : Node) :
    cache.insert key tree = cache := if_pos present

/-- The last arrivals, for which there is room, after one more arrival. -/
theorem rtake_concat (positive : 0 < room) (arrived : List (String × Node))
    (entry : String × Node) :
    (arrived ++ [entry]).rtake room =
      (arrived.rtake room).drop ((arrived.rtake room).length + 1 - room) ++ [entry] := by
  unfold List.rtake
  rw [List.drop_drop, List.length_drop, List.length_append, List.length_singleton,
    List.drop_append_of_le_length (by omega)]
  congr 2
  omega

section

variable {arrived : List (String × Node)}

/-- No more trees are held than there is room for. -/
theorem HoldsLast.size_le (holds : HoldsLast room arrived cache) : cache.size ≤ room := by
  rw [size, holds.trees, List.rtake, List.length_drop]
  omega

/-- The queue holds the keys that are present. -/
theorem HoldsLast.mem_order (holds : HoldsLast room arrived cache) :
    key ∈ cache.order ↔ cache.has key = true := by
  rw [holds.order, has_eq_true]

/-- A new key goes to the end of the queue, and in a full cache the oldest one leaves. -/
theorem HoldsLast.insert_of_absent (holds : HoldsLast room arrived cache)
    (absent : cache.has key = false) (tree : Node) :
    (cache.insert key tree).order = cache.order.drop (cache.size + 1 - room) ++ [key] ∧
      (cache.insert key tree).trees =
        cache.trees.drop (cache.size + 1 - room) ++ [(key, tree)] := by
  have different := holds.different
  rw [holds.order] at different
  have evicted := evict_eq_drop cache.capacity different
  rw [← holds.order] at evicted
  unfold insert
  rw [if_neg (by simp [absent])]
  simp only [evicted]
  rw [holds.order, List.map_drop, ← holds.capacity]
  exact ⟨rfl, rfl⟩

/-- A cache that holds the last arrivals does so after every change. -/
theorem HoldsLast.apply (holds : HoldsLast room arrived cache) (positive : 0 < room)
    (change : Change) : HoldsLast room (arrive room arrived change) (cache.apply change) := by
  cases change with
  | clear => exact ⟨holds.capacity, (List.rtake_nil _).symm, rfl, .nil⟩
  | insert key tree =>
    have known : key ∈ (arrived.rtake room).map Prod.fst ↔ cache.has key = true := by
      rw [← holds.trees, has_eq_true]
    simp only [arrive, TreeCache.apply]
    by_cases present : cache.has key = true
    · rw [if_pos (known.mpr present), insert_of_present present]
      exact holds
    · have new : key ∉ cache.order := mt holds.mem_order.mp present
      obtain ⟨order, trees⟩ := holds.insert_of_absent (Bool.eq_false_iff.mpr present) tree
      rw [if_neg (mt known.mp present)]
      refine ⟨?_, ?_, ?_, ?_⟩
      · unfold insert
        rw [if_neg present]
        exact holds.capacity
      · rw [trees, rtake_concat positive, ← holds.trees, size]
      · rw [order, trees, holds.order, List.map_append, List.map_drop]
        rfl
      · rw [order]
        refine List.nodup_append.mpr ⟨holds.different.sublist (List.drop_sublist _ _),
          List.pairwise_singleton _ _, ?_⟩
        rintro other older _ last rfl
        cases List.mem_singleton.mp last
        exact new (List.mem_of_mem_drop older)

/-- An empty cache, changed again and again, holds the last arrivals. -/
theorem holdsLast_replay (capacity : Nat) (changes : List Change) :
    HoldsLast (max capacity 1) (arrivals (max capacity 1) changes)
      ((empty capacity).replay changes) := by
  have run (changes : List Change) (arrived : List (String × Node)) (cache : TreeCache)
      (holds : HoldsLast (max capacity 1) arrived cache) :
      HoldsLast (max capacity 1) (changes.foldl (arrive (max capacity 1)) arrived)
        (cache.replay changes) := by
    induction changes generalizing arrived cache with
    | nil => exact holds
    | cons change changes ih => exact ih _ _ (holds.apply (by omega) change)
  exact run changes [] (empty capacity) ⟨rfl, (List.rtake_nil _).symm, rfl, .nil⟩

end

/-! ## Parses side by side -/

/-- A cache that several parses share, and the trees they have yet to add. -/
structure Shared where
  cache : TreeCache
  waiting : List (String × Node) := []

/-- What one of the parses does to the cache at a time. One that finds its key changes
nothing. -/
inductive Shared.Step : Shared → Shared → Prop
  /-- A parse looks its key up in vain, and will add a tree. -/
  | missed {cache : TreeCache} {waiting : List (String × Node)} {key : String} (tree : Node)
      (absent : cache.get? key = none) :
      Step ⟨cache, waiting⟩ ⟨cache, (key, tree) :: waiting⟩
  /-- A parse adds its tree, whatever the others have added since it looked. -/
  | added {cache : TreeCache} (before : List (String × Node)) {after : List (String × Node)}
      (key : String) (tree : Node) :
      Step ⟨cache, before ++ (key, tree) :: after⟩ ⟨cache.insert key tree, before ++ after⟩
  | cleared {cache : TreeCache} {waiting : List (String × Node)} :
      Step ⟨cache, waiting⟩ ⟨cache.clear, waiting⟩

/-- One change after others. -/
theorem replay_concat (cache : TreeCache) (changes : List Change) (change : Change) :
    cache.replay (changes ++ [change]) = (cache.replay changes).apply change :=
  List.foldl_concat ..

/-- Whatever parses do side by side, insertions and clearings one after the other do to the
cache as well. -/
theorem Shared.exists_replay {start last : Shared}
    (reached : Relation.ReflTransGen Step start last) :
    ∃ changes, last.cache = start.cache.replay changes := by
  induction reached with
  | refl => exact ⟨[], rfl⟩
  | tail _ step ih =>
    obtain ⟨changes, same⟩ := ih
    cases step with
    | missed => exact ⟨changes, same⟩
    | added _ key tree =>
      refine ⟨changes ++ [.insert key tree], ?_⟩
      rw [replay_concat, ← same]
      rfl
    | cleared =>
      refine ⟨changes ++ [.clear], ?_⟩
      rw [replay_concat, ← same]
      rfl

/-- A parse that is not disturbed looks its key up and adds its tree. -/
theorem Shared.reached_parse (analyzer : Analyzer) (identity : String) (unit : SourceUnit)
    (caches : Caches) (waiting : List (String × Node)) :
    Relation.ReflTransGen Step ⟨caches.trees, waiting⟩
      ⟨((analyzer.parse identity unit).runFrom caches).2.trees, waiting⟩ := by
  by_cases supported : analyzer.registry.supports unit.language = true
  · rw [Analyzer.parse_runFrom supported]
    simp only
    split
    · exact .refl
    · rename_i tree absent _
      exact .head (.missed tree absent) (.single (.added [] _ tree))
    · exact .refl
  · have refused : analyzer.registry.require unit.language =
        .error (.unsupportedLanguage unit.language.id) := if_neg supported
    unfold Analyzer.parse
    rw [refused, Analysis.runFrom_bind_error (Analysis.runFrom_ofExcept (.error _) caches)]

/-! ## The bounded queue -/

/-- After any insertions and clearings a cache holds the trees that arrived last, as many as
it has room for, which is at least one, and its queue holds their keys, each once, in the order
of arrival. Eviction ends because there is room again, and never because the queue is dry. A
new key is present when it has been inserted; for it the oldest one goes if the cache is full,
and none otherwise. A present key changes nothing. Parses that run side by side lead the cache
to nothing else, where a parse looks its key up and adds its tree in two steps. -/
theorem replay_fifo (capacity : Nat) :
    (∀ changes : List Change,
      let room := max capacity 1
      let cache := (empty capacity).replay changes
      HoldsLast room (arrivals room changes) cache ∧
      (∀ key, key ∈ cache.order ↔ cache.has key = true) ∧
      cache.size ≤ room ∧
      EndsWithRoom room cache.order cache.trees ∧
      ∀ key tree,
        (cache.insert key tree).has key = true ∧
        (cache.has key = true → cache.insert key tree = cache) ∧
        (cache.has key = false →
          let gone := if cache.size = room then 1 else 0
          (cache.insert key tree).order = cache.order.drop gone ++ [key] ∧
          (cache.insert key tree).trees = cache.trees.drop gone ++ [(key, tree)])) ∧
    (∀ shared : Shared, Relation.ReflTransGen Shared.Step ⟨empty capacity, []⟩ shared →
      ∃ changes, shared.cache = (empty capacity).replay changes) ∧
    ∀ (analyzer : Analyzer) identity unit (caches : Caches) waiting,
      Relation.ReflTransGen Shared.Step ⟨caches.trees, waiting⟩
        ⟨((analyzer.parse identity unit).runFrom caches).2.trees, waiting⟩ := by
  refine ⟨fun changes => ?_, fun shared => Shared.exists_replay, Shared.reached_parse⟩
  intro room cache
  have holds : HoldsLast room (arrivals room changes) cache := holdsLast_replay capacity changes
  have bounded := holds.size_le
  refine ⟨holds, fun key => holds.mem_order, bounded, ?_, fun key tree => ?_⟩
  · have different := holds.different
    rw [holds.order] at different ⊢
    exact endsWithRoom (by omega) different
  · have gone : cache.size + 1 - room = if cache.size = room then 1 else 0 := by
      split <;> omega
    refine ⟨?_, fun present => insert_of_present present tree, fun absent => ?_⟩
    · by_cases present : cache.has key = true
      · rw [insert_of_present present]
        exact present
      · obtain ⟨-, trees⟩ := holds.insert_of_absent (Bool.eq_false_iff.mpr present) tree
        rw [has_eq_true, trees]
        simp
    · rw [← gone]
      exact holds.insert_of_absent absent tree

/-- In a cache with room for two a third key takes the place of the first, though the first
was inserted once more in between. -/
theorem replay_fifo_full :
    let leaf : Node := .mk "module" true "" 0 0 []
    let cache := (empty 2).replay [.insert "a" leaf, .insert "b" leaf, .insert "a" leaf]
    cache.has "c" = false ∧ cache.size = 2 ∧ (cache.insert "c" leaf).order = ["b", "c"] := by
  intro leaf cache
  obtain ⟨-, -, -, -, inserted⟩ :=
    (replay_fifo 2).1 [.insert "a" leaf, .insert "b" leaf, .insert "a" leaf]
  have absent : cache.has "c" = false := by decide
  exact ⟨absent, by decide, ((inserted "c" leaf).2.2 absent).1⟩

end TreeCache

end CodeAtlas
