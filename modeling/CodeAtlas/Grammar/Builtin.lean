import CodeAtlas.Grammar.CSharp
import CodeAtlas.Grammar.Cpp
import CodeAtlas.Grammar.EcmaScript
import CodeAtlas.Grammar.Go
import CodeAtlas.Grammar.Java
import CodeAtlas.Grammar.Python
import CodeAtlas.Grammar.Rust
import CodeAtlas.Language

/-!
# The grammar of each language
-/

namespace CodeAtlas.Language

/-- The grammar of a language. -/
def grammar : Language → Grammar
  | .python => .python
  | .javaScript => .ecmaScript false
  | .typeScript => .ecmaScript true
  | .tsx => .ecmaScript true
  | .rust => .rust
  | .go => .go
  | .java => .java
  | .cpp => .cpp
  | .cSharp => .cSharp

end CodeAtlas.Language
