import CodeAtlas.Text.Basic

/-!
# Lines around and between line numbers

Line numbers count from one and ranges include both ends. Windows and ranges are
clipped to the text.
-/

namespace CodeAtlas

/-- Up to `count` lines before and after the lines `startLine` to `endLine`. -/
def contextWindow (lines : List String) (startLine endLine count : Nat) :
    List String × List String :=
  let start := min (startLine - 1) lines.length
  let stop := min endLine lines.length
  ((lines.take start).drop (start - count), (lines.drop stop).take count)

/-- Why a range of lines cannot be shown. -/
inductive LineRangeError where
  | zero
  | reversed (first last : Nat)
  | pastEnd (first total : Nat)
  deriving DecidableEq, Repr

/-- The words for a bad range of lines. -/
def LineRangeError.message : LineRangeError → String
  | .zero => "Line numbers start at 1"
  | .reversed first last =>
    "start_line " ++ toString first ++ " is after end_line " ++ toString last
  | .pastEnd first total =>
    "start_line " ++ toString first ++ " is past the end of the file ("
      ++ toString total ++ " lines)"

/-- The lines `first` to `last` of a text joined by line feeds, and the last line
shown. -/
def lineRange (text : String) (first last : Nat) : Except LineRangeError (String × Nat) :=
  if first = 0 ∨ last = 0 then .error .zero
  else if last < first then .error (.reversed first last)
  else
    let lines := Text.lines text
    if lines.length < first then .error (.pastEnd first lines.length)
    else
      let last := min last lines.length
      .ok (Text.join "\n" ((lines.take last).drop (first - 1)), last)

end CodeAtlas
