import CodeAtlas.Environment.Basic
import CodeAtlas.Text.Alphanumeric
import CodeAtlas.Text.Blank
import CodeAtlas.Text.Chars

/-!
# Assignments

A line of a settings file is blank, a comment, or the assignment of a value to a name,
with or without the word `export` before it. A value is read one character at a time:
single quotes keep everything as it stands, double quotes keep blanks, a backslash takes
the next character literally, and a dollar sign mentions a variable. A blank outside
quotes ends the value, and only a comment may follow.
-/

namespace CodeAtlas

/-- What a line of a settings file says. -/
inductive SettingsLine where
  | blank
  | assignment (name value : String)
  | malformed
  deriving DecidableEq, Repr

namespace SettingsLine

/-- What the reader of a value is inside of. -/
inductive Mode where
  | plain
  /-- Single quotes. -/
  | literal
  /-- The character after a backslash. -/
  | escape
  /-- The name of a variable, last character first. -/
  | mention (name : List Char)
  /-- The name of a variable in braces, last character first. -/
  | braced (name : List Char)
  /-- The blanks after the value. -/
  | ended
  /-- The comment after the value. -/
  | comment
  deriving DecidableEq, Repr

/-- How far a value has been read. -/
structure State where
  mode : Mode := .plain
  /-- Whether double quotes are open. -/
  quoted : Bool := false
  /-- The value so far, last character first. -/
  value : List Char := []
  deriving DecidableEq, Repr

namespace State

/-- Appends a character. -/
def push (state : State) (c : Char) : State :=
  { state with mode := .plain, value := c :: state.value }

/-- Appends what a mentioned variable stands for. -/
def substitute (state : State) (expand : String → String) (name : List Char) : State :=
  { state with
    mode := .plain
    value := (expand (String.ofList name.reverse)).toList.reverse ++ state.value }

/-- Reads a character that nothing special surrounds, double quotes apart. -/
def readPlain (state : State) (c : Char) : State :=
  if c = '$' then { state with mode := .mention [] }
  else if c = '"' then { state with quoted := !state.quoted }
  else if c = '\\' then { state with mode := .escape }
  else if !state.quoted ∧ c = '\'' then { state with mode := .literal }
  else if !state.quoted ∧ (c = ' ' ∨ c = '\t') then { state with mode := .ended }
  else state.push c

/-- Reads a character of the name of a variable, or the first one after it. -/
def readMention (state : State) (expand : String → String) (name : List Char) (c : Char) :
    State :=
  if isAlphanumericChar c then { state with mode := .mention (c :: name) }
  else if c = '\x7b' ∧ name.isEmpty then { state with mode := .braced [] }
  else
    let state := state.substitute expand name
    if c = '$' then { state with mode := .mention [] } else state.push c

/-- Reads the character after a backslash. -/
def readEscape? (state : State) (c : Char) : Option State :=
  if c = 'n' then some (state.push '\n')
  else if ['\\', '\'', '"', '$', ' '].contains c then some (state.push c)
  else none

/-- Reads one character; none when it cannot stand here. -/
def step? (expand : String → String) (state : State) (c : Char) : Option State :=
  match state.mode with
  | .plain => some (state.readPlain c)
  | .literal =>
    if c = '\'' then some { state with mode := .plain }
    else some { state with value := c :: state.value }
  | .escape => state.readEscape? c
  | .mention name => some (state.readMention expand name c)
  | .braced name =>
    if c = '\x7d' then some (state.substitute expand name)
    else some { state with mode := .braced (c :: name) }
  | .ended =>
    if c = ' ' ∨ c = '\t' then some state
    else if c = '#' then some { state with mode := .comment }
    else none
  | .comment => some state

/-- The value when the line ends; none inside quotes or braces. -/
def finish? (expand : String → String) (state : State) : Option (List Char) :=
  if state.quoted then none
  else
    match state.mode with
    | .literal => none
    | .braced _ => none
    | .mention name => some (state.substitute expand name).value.reverse
    | _ => some state.value.reverse

end State

/-- Reads a value. -/
def value? (expand : String → String) (cs : List Char) : Option (List Char) :=
  (cs.foldlM (State.step? expand) {}).bind (State.finish? expand)

/-- Whether a character may begin a name. -/
def startsName (c : Char) : Bool := c.isAlpha || c = '_'

/-- Whether a character may stand in a name. -/
def inName (c : Char) : Bool := c.isAlphanum || c = '_' || c = '.'

/-- Reads a name and the blanks after it. -/
def name? (cs : List Char) : Option (List Char × List Char) :=
  if (cs.head?.map startsName).getD false then
    some (cs.takeWhile inName, Chars.trimStart (cs.dropWhile inName))
  else none

/-- Reads the name that is assigned to, through the equals sign. The word `export` is
that name only when the equals sign follows it. -/
def target? (cs : List Char) : Option (List Char × List Char) :=
  (name? cs).bind fun (name, rest) =>
    match rest with
    | '=' :: rest => some (name, rest)
    | rest =>
      if name = ['e', 'x', 'p', 'o', 'r', 't'] then
        (name? rest).bind fun (name, rest) =>
          match rest with
          | '=' :: rest => some (name, rest)
          | _ => none
      else none

/-- Whether nothing but a comment is left. -/
def isBare (cs : List Char) : Bool := cs.isEmpty || cs.head? = some '#'

/-- Reads a line. `expand` gives the text that stands for a variable. -/
def read (expand : String → String) (line : List Char) : SettingsLine :=
  let cs := Chars.trim line
  if isBare cs then .blank
  else
    match target? cs with
    | none => .malformed
    | some (name, rest) =>
      let rest := Chars.trimStart rest
      if isBare rest then .assignment (String.ofList name) ""
      else
        match value? expand rest with
        | some value => .assignment (String.ofList name) (String.ofList value)
        | none => .malformed

end SettingsLine

end CodeAtlas
