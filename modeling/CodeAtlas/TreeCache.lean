import CodeAtlas.Language
import CodeAtlas.Sha256
import CodeAtlas.Tree

/-!
# The tree cache

Parsed trees are remembered under a fingerprint of where the text came from, its
language and the text itself. The cache is bounded; when it is full, the oldest entry
makes room for a new one, and a key that is present is never replaced.
-/

namespace CodeAtlas

namespace Fingerprint

/-- The bytes that identify a source: where it came from, its language and its text,
with a zero byte between neighbours. -/
def preimage (identity : String) (language : Language) (content : String) : List UInt8 :=
  let bytes (s : String) : List UInt8 := s.toList.flatMap String.utf8EncodeChar
  bytes identity ++ [0] ++ bytes language.id ++ [0] ++ bytes content

/-- The cache key of a source, in hexadecimal. -/
def key (identity : String) (language : Language) (content : String) : String :=
  Sha256.hex (Sha256.digest (preimage identity language content))

end Fingerprint

/-- A bounded cache of trees: a map by key, and the keys in the order they came. -/
structure TreeCache where
  /-- The largest number of trees. -/
  capacity : Nat
  trees : List (String × Node)
  /-- The keys of the trees, oldest first. -/
  order : List String
  capacity_pos : 0 < capacity := by omega

namespace TreeCache

/-- A cache with no trees; there is always room for one. -/
def empty (capacity : Nat) : TreeCache where
  capacity := max capacity 1
  trees := []
  order := []

/-- The tree under a key. -/
def get? (cache : TreeCache) (key : String) : Option Node :=
  (cache.trees.find? fun entry => entry.1 = key).map Prod.snd

/-- Whether a key is present. -/
def has (cache : TreeCache) (key : String) : Bool :=
  cache.trees.any fun entry => entry.1 = key

/-- The number of trees. -/
def size (cache : TreeCache) : Nat := cache.trees.length

/-- Removes the oldest trees until one more fits, and gives the remaining keys and
trees. -/
def evict (capacity : Nat) : (order : List String) → List (String × Node) →
    List String × List (String × Node)
  | [], trees => ([], trees)
  | oldest :: order, trees =>
    if trees.length < capacity then (oldest :: order, trees)
    else evict capacity order (trees.filter fun entry => entry.1 ≠ oldest)

/-- Adds a tree under a new key, making room first; a present key changes nothing. -/
def insert (cache : TreeCache) (key : String) (tree : Node) : TreeCache :=
  if cache.has key then cache
  else
    let kept := evict cache.capacity cache.order cache.trees
    { cache with order := kept.1 ++ [key], trees := kept.2 ++ [(key, tree)] }

/-- Drops every tree. -/
def clear (cache : TreeCache) : TreeCache := { cache with trees := [], order := [] }

end TreeCache

end CodeAtlas
