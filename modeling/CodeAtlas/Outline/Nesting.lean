import CodeAtlas.Symbol

/-!
# Nesting of symbols

Symbols come as a flat list, and their nesting is recovered from byte ranges alone.
The list is sorted by start, outer ranges first, and read once with the stack of
scopes that are still open. `nest` gives each symbol the innermost open scope that
strictly contains it, and a function right inside a class-like scope becomes a method.
-/

namespace CodeAtlas.Outline

/-- The order of a listing: by start, and from one start on the longer range first. -/
def precedes (a b : Symbol) : Bool :=
  a.startByte < b.startByte || (a.startByte == b.startByte && b.endByte ≤ a.endByte)

/-- A symbol placed under its parent, or at the top when it has none. -/
def placeUnder (parent? : Option Symbol) (symbol : Symbol) : Symbol :=
  match parent? with
  | none => { symbol with parent := none }
  | some parent =>
    { symbol with
      parent := some parent.name
      kind :=
        if symbol.kind = .function ∧ parent.kind.isClassLike then .method else symbol.kind }

/-- The scopes left open at a symbol's start: those that have ended are dropped from
the top of the stack. -/
def stillOpen (stack : List Symbol) (symbol : Symbol) : List Symbol :=
  stack.dropWhile fun scope => scope.endByte ≤ symbol.startByte

/-- Places sorted symbols under their parents, given the stack of open scopes,
innermost first. Variables open no scope. -/
def nest (stack : List Symbol) : List Symbol → List Symbol
  | [] => []
  | symbol :: symbols =>
    let scopes := stillOpen stack symbol
    placeUnder (scopes.find? fun scope => scope.contains symbol) symbol
      :: nest (if symbol.kind.canEnclose then symbol :: scopes else scopes) symbols

/-- Sorts symbols and gives each its parent. -/
def resolveParents (symbols : List Symbol) : List Symbol :=
  nest [] (symbols.mergeSort precedes)

end CodeAtlas.Outline
