import CodeAtlas.Decimal.Shortest

/-!
# JSON values

The fields of an object are kept sorted by name and each name occurs once; of several
values given for a name the last one counts. Integers that fit a machine word stay
exact, all other numbers are binary floating-point.
-/

namespace CodeAtlas

/-- A JSON number. -/
inductive JsonNumber where
  /-- A whole number from zero on. -/
  | natural (n : Nat)
  /-- A whole number below zero, by its distance from zero. -/
  | negative (n : Nat)
  | float (x : Binary64)
  deriving DecidableEq, Repr

/-- A JSON value. -/
inductive Json where
  | null
  | bool (value : Bool)
  | number (value : JsonNumber)
  | string (value : String)
  | array (items : List Json)
  | object (fields : List (String × Json))

namespace Json

/-- Puts a field in its place among sorted fields, over an earlier one of its name. -/
def insertField (name : String) (value : Json) :
    List (String × Json) → List (String × Json)
  | [] => [(name, value)]
  | (other, old) :: fields =>
    if name < other then (name, value) :: (other, old) :: fields
    else if name = other then (name, value) :: fields
    else (other, old) :: insertField name value fields

/-- The object with the given fields; a later field wins over an earlier one. -/
def ofFields (fields : List (String × Json)) : Json :=
  .object (fields.foldl (fun sorted field => insertField field.1 field.2 sorted) [])

/-- A whole number. -/
def nat (n : Nat) : Json := .number (.natural n)

/-- An array of texts. -/
def strings (texts : List String) : Json := .array (texts.map .string)

/-- A text, or null for none. -/
def optionalString : Option String → Json
  | some text => .string text
  | none => .null

/-- The value of a field of an object. -/
def field? (value : Json) (name : String) : Option Json :=
  match value with
  | .object fields => (fields.find? fun field => field.1 = name).map Prod.snd
  | _ => none

/-- The text of a string value. -/
def asString? : Json → Option String
  | .string text => some text
  | _ => none

/-- The number of a value that is a whole number from zero on. -/
def asNat? : Json → Option Nat
  | .number (.natural n) => some n
  | _ => none

/-- The truth of a boolean value. -/
def asBool? : Json → Option Bool
  | .bool value => some value
  | _ => none

/-- The items of an array value. -/
def asArray? : Json → Option (List Json)
  | .array items => some items
  | _ => none

end Json

end CodeAtlas
