/-!
# Environments

The variables of a process. A name has at most one value that counts, the first one
listed.
-/

namespace CodeAtlas

/-- The variables of a process. -/
structure Environment where
  bindings : List (String × String) := []
  deriving DecidableEq, Repr

namespace Environment

/-- The value of a variable. -/
def get? (environment : Environment) (name : String) : Option String :=
  (environment.bindings.find? fun binding => binding.1 = name).map Prod.snd

/-- Gives a variable a value, over the one it has. -/
def set (environment : Environment) (name value : String) : Environment :=
  ⟨(name, value) :: environment.bindings⟩

/-- Whether a text can be the value of a variable: a zero character would end it. -/
def canHold (value : String) : Bool := !value.toList.contains (Char.ofNat 0)

/-- Gives a variable a value unless it has one, be it empty; none when the value would have
to be given and cannot be held. -/
def setDefault? (environment : Environment) (name value : String) : Option Environment :=
  if (environment.get? name).isSome then some environment
  else if canHold value then some (environment.set name value)
  else none

/-- The text that stands for a mention of a variable; nothing for one without a value. -/
def expand (environment : Environment) (name : String) : String :=
  (environment.get? name).getD ""

end Environment

end CodeAtlas
