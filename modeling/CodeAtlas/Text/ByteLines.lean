/-!
# Lines of bytes

Input, settings and ignore rules are cut into lines before they are read as text, so that
bytes which are no text end what can be read and spoil nothing before them.
-/

namespace CodeAtlas

/-- The pieces of bytes that line feeds end; the end of the bytes ends a last piece that
is not empty. -/
def byteLines : List UInt8 → List (List UInt8)
  | [] => []
  | byte :: rest =>
    if byte = 10 then [] :: byteLines rest
    else
      match byteLines rest with
      | [] => [[byte]]
      | line :: lines => (byte :: line) :: lines

/-- The text that bytes spell, when they are valid UTF-8. -/
def textOfBytes? (bytes : List UInt8) : Option String := String.fromUTF8? ⟨bytes.toArray⟩

/-- The text of each piece, up to the first one that is no text. -/
def textsUntilInvalid : List (List UInt8) → List String
  | [] => []
  | bytes :: rest =>
    match textOfBytes? bytes with
    | some line => line :: textsUntilInvalid rest
    | none => []

end CodeAtlas
