import CodeAtlas.Json.Shape
import CodeAtlas.Symbol

/-!
# Reading parameters

A parameter is given as a record of its name, its type and its default, the last two of
which may be null.
-/

namespace CodeAtlas.Parameter

/-- The record of a parameter. -/
def record : Record :=
  ⟨"Parameter",
    [⟨"name", Shape.string, .required⟩,
     ⟨"type_annotation", Shape.nullable Shape.string, .optional⟩,
     ⟨"default_value", Shape.nullable Shape.string, .optional⟩]⟩

/-- Reads a parameter. -/
def ofJson (value : Json) : Except ShapeError Parameter := do
  match ← record.read value with
  | [.string name, typeText, defaultValue] =>
    return { name, typeText := typeText.asString?, defaultValue := defaultValue.asString? }
  | _ => throw (.missingField "name")

end CodeAtlas.Parameter
