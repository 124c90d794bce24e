import CodeAtlas.Json.Writer
import CodeAtlas.Text.Quoted

/-!
# Shapes of JSON values

A shape is a test that says what is wrong with the first part of a value that does not
fit. A record is given as an object, whose fields may come in any order and may be more
than those asked for, or as an array of its fields in their listed order. A record that
fits is read as the list of its fields' values, null standing for those left out.
-/

namespace CodeAtlas

/-- Why a value does not fit a shape. -/
inductive ShapeError where
  | missingField (name : String)
  /-- A value of another kind than the one wanted. -/
  | wrongKind (found : Json) (wanted : String)
  /-- An array with fewer items than the record has fields. -/
  | tooShort (found : Nat) (record : String) (fields : Nat)
  /-- An array with more items than the record has fields. -/
  | tooLong (found : Nat)

/-- The kind of a value and, for the small ones, the value, as messages name it. -/
def Json.described : Json → String
  | .null => "null"
  | .bool true => "boolean `true`"
  | .bool false => "boolean `false`"
  | .number (.float x) =>
    "floating point `" ++ String.ofList (Json.writeNumber (.float x)) ++ "`"
  | .number n => "integer `" ++ String.ofList (Json.writeNumber n) ++ "`"
  | .string s => "string " ++ Text.quoted s
  | .array _ => "sequence"
  | .object _ => "map"

namespace ShapeError

/-- The words for a number of elements. -/
def elements (count : Nat) : String :=
  toString count ++ (if count = 1 then " element" else " elements")

/-- The words for a value that does not fit. -/
def message : ShapeError → String
  | .missingField name => "missing field `" ++ name ++ "`"
  | .wrongKind found wanted => "invalid type: " ++ found.described ++ ", expected " ++ wanted
  | .tooShort found record fields =>
    "invalid length " ++ toString found ++ ", expected struct " ++ record ++ " with "
      ++ elements fields
  | .tooLong found =>
    "invalid length " ++ toString found ++ ", expected fewer elements in array"

end ShapeError

/-- A test of values. -/
abbrev Shape := Json → Except ShapeError Unit

namespace Shape

/-- Every value. -/
def any : Shape := fun _ => .ok ()

/-- A text. -/
def string : Shape
  | .string _ => .ok ()
  | value => .error (.wrongKind value "a string")

/-- A truth value. -/
def boolean : Shape
  | .bool _ => .ok ()
  | value => .error (.wrongKind value "a boolean")

/-- Null, or a value of another shape. -/
def nullable (shape : Shape) : Shape
  | .null => .ok ()
  | value => shape value

end Shape

/-- When a field of a record may be left out. -/
inductive Presence where
  /-- Never. -/
  | required
  /-- In an object, but not in an array. -/
  | optional
  /-- In an object, and at the end of an array. -/
  | defaulted
  deriving DecidableEq, Repr

/-- A field of a record. -/
structure RecordField where
  name : String
  shape : Shape
  presence : Presence := .required

/-- A record: its name, and its fields in listed order. -/
structure Record where
  name : String
  fields : List RecordField

namespace Record

/-- Tests one field of an object; a field that the record does not have fits. -/
def checkField (record : Record) (field : String × Json) : Except ShapeError Unit :=
  match record.fields.find? fun known => known.name = field.1 with
  | some known => known.shape field.2
  | none => .ok ()

/-- The value of a field of an object. -/
def valueIn (value : Json) (field : RecordField) : Except ShapeError Json :=
  match value.field? field.name with
  | some found => .ok found
  | none => if field.presence = .required then .error (.missingField field.name) else .ok .null

/-- The values of fields, given as an array in listed order. -/
def readItems (record : Record) : List RecordField → List Json → Except ShapeError (List Json)
  | [], _ => .ok []
  | field :: fields, [] =>
    if field.presence = .defaulted then (record.readItems fields []).map (.null :: ·)
    else
      .error (.tooShort (record.fields.length - (fields.length + 1)) record.name
        record.fields.length)
  | field :: fields, item :: items => do
    field.shape item
    return item :: (← record.readItems fields items)

/-- The values of a record's fields in listed order. The fields of an object are tested
in the order of their names, before missing ones are looked for. -/
def read (record : Record) (value : Json) : Except ShapeError (List Json) :=
  match value with
  | .object fields => do
    fields.forM record.checkField
    record.fields.mapM (valueIn value)
  | .array items => do
    let values ← record.readItems record.fields items
    if record.fields.length < items.length then .error (.tooLong items.length)
    else return values
  | value => .error (.wrongKind value ("struct " ++ record.name))

/-- The shape of a record's values. -/
def shape (record : Record) : Shape := fun value => (record.read value).map fun _ => ()

end Record

end CodeAtlas
