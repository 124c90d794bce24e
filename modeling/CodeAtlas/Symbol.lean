import CodeAtlas.Text.Basic

/-!
# Symbols

A symbol is a named declaration with the range it covers and what its header says.
Only the containment of ranges relates one symbol to another.
-/

namespace CodeAtlas

/-- What a symbol declares. -/
inductive SymbolKind where
  | function
  | method
  | «class»
  | variable
  | interface
  | typeAlias
  | struct
  | enum
  | module
  deriving DecidableEq, Repr

namespace SymbolKind

/-- Every kind, in listing order. -/
def all : List SymbolKind :=
  [.function, .method, .class, .variable, .interface, .typeAlias, .struct, .enum, .module]

/-- The name of a kind. -/
def name : SymbolKind → String
  | .function => "function"
  | .method => "method"
  | .class => "class"
  | .variable => "variable"
  | .interface => "interface"
  | .typeAlias => "type_alias"
  | .struct => "struct"
  | .enum => "enum"
  | .module => "module"

/-- The kind with exactly this name. -/
def ofName? (name : String) : Option SymbolKind :=
  all.find? fun kind => kind.name = name

/-- Whether a symbol of this kind may be the parent of another. -/
def canEnclose (kind : SymbolKind) : Bool := kind != .variable

/-- Whether functions right inside are methods. -/
def isClassLike : SymbolKind → Bool
  | .class | .struct | .interface | .enum => true
  | _ => false

/-- Whether the kind is a function or a method. -/
def isCallable : SymbolKind → Bool
  | .function | .method => true
  | _ => false

end SymbolKind

/-- One entry of a parameter list. -/
structure Parameter where
  name : String
  typeText : Option String := none
  defaultValue : Option String := none
  deriving DecidableEq, Repr

/-- A parameter as one text: its name, then its type after a colon, then its default
after an equals sign. -/
def Parameter.render (parameter : Parameter) : String :=
  parameter.name
    ++ (parameter.typeText.map fun type => ": " ++ type).getD ""
    ++ (parameter.defaultValue.map fun value => " = " ++ value).getD ""

/-- A named declaration. -/
structure Symbol where
  name : String
  kind : SymbolKind
  startByte : Nat
  endByte : Nat
  /-- The first line, counted from one. -/
  startLine : Nat
  /-- The last line, counted from one. -/
  endLine : Nat
  /-- The name of the tightest symbol around this one that opens a scope. -/
  parent : Option String := none
  parameters : List Parameter := []
  returnType : Option String := none
  isAsync : Bool := false
  docstring : Option String := none
  decorators : List String := []
  modifiers : List String := []
  signature : String := ""
  deriving DecidableEq, Repr

namespace Symbol

/-- The byte range of a symbol. -/
def range (symbol : Symbol) : Nat × Nat := (symbol.startByte, symbol.endByte)

/-- The first and the last line, joined by a dash. -/
def lineSpan (symbol : Symbol) : String :=
  toString symbol.startLine ++ "-" ++ toString symbol.endLine

/-- The number of lines. -/
def lineCount (symbol : Symbol) : Nat := symbol.endLine + 1 - symbol.startLine

/-- Whether the range of `outer` includes that of `inner` and differs from it. -/
def contains (outer inner : Symbol) : Bool :=
  outer.startByte ≤ inner.startByte && inner.endByte ≤ outer.endByte && outer.range != inner.range

end Symbol

end CodeAtlas
