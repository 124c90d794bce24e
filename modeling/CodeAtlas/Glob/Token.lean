import CodeAtlas.Text.Basic

/-!
# Glob patterns

A glob is read into tokens. Two stars are special only where they stand for whole
path components: at the start before a separator, at the end after one, or between
two; everywhere else they are two ordinary stars. A group in braces holds
alternatives, and groups may be nested. A bracket opens a class; one without a closing
bracket is a fault, or stands for itself where that is allowed.

Reading goes through the characters once. `scan` carries the character before the
current one, the tokens of the open branch and the groups around it, so a fault is
reported at the first character that cannot be read.
-/

namespace CodeAtlas.Glob

/-- One element of a glob. -/
inductive Token where
  /-- A character that stands for itself. -/
  | literal (c : Char)
  /-- `?`: one byte. -/
  | any
  /-- `*`: any run of bytes. -/
  | star
  /-- A leading `**/`: nothing, or components up to a separator. -/
  | anyLead
  /-- A trailing `/**`: everything below. -/
  | anyTail
  /-- `/**/` in the middle: one separator, or two with anything between. -/
  | anyMiddle
  /-- `[...]`: one byte in one of the ranges, or in none of them. -/
  | charClass (negated : Bool) (ranges : List (Char × Char))
  /-- `{...}`: one of the branches. -/
  | alternates (branches : List (List Token))

/-- Why a glob cannot be used. -/
inductive Fault where
  | unclosedClass
  | invalidRange (low high : Char)
  | unopenedAlternates
  | unclosedAlternates
  | danglingEscape
  /-- The expression at a place among those read together is nested too deep. -/
  | unreadableExpression (place : Nat)
  deriving DecidableEq, Repr

/-- The words for a fault. -/
def Fault.message : Fault → String
  | .unclosedClass => "unclosed character class; missing ']'"
  | .invalidRange low high =>
    "invalid range; '" ++ low.toString ++ "' > '" ++ high.toString ++ "'"
  | .unopenedAlternates =>
    "unopened alternate group; missing '\x7b' (maybe escape '\x7d' with '[\x7d]'?)"
  | .unclosedAlternates =>
    "unclosed alternate group; missing '\x7d' (maybe escape '\x7b' with '[\x7b]'?)"
  | .danglingEscape => "dangling '\\'"
  | .unreadableExpression place => "error parsing pattern " ++ toString place

/-- A fault of a glob, with the text it is found in where one text can be blamed. -/
structure Error where
  text? : Option String
  fault : Fault
  deriving DecidableEq, Repr

/-- The words for a glob that cannot be used. -/
def Error.message (e : Error) : String :=
  match e.text? with
  | some text => "error parsing glob '" ++ text ++ "': " ++ e.fault.message
  | none => e.fault.message

/-- A character class whose closing bracket has not been met. -/
structure OpenClass where
  negated : Bool := false
  /-- The ranges so far, last first. -/
  ranges : List (Char × Char) := []
  /-- Whether nothing has been read since the opening bracket. -/
  opened : Bool := true
  /-- Whether nothing has been read since the opening bracket and the negation. -/
  first : Bool := true
  /-- Whether a dash after the last range waits for its upper end. -/
  dash : Bool := false

/-- A group whose closing brace has not been met. -/
structure OpenGroup where
  /-- The finished branches, last first. -/
  branches : List (List Token)
  /-- The tokens before the group, last first. -/
  outer : List Token

/-- A class that has just been given a member, with its ranges. -/
def OpenClass.add (cls : OpenClass) (ranges : List (Char × Char)) : OpenClass :=
  { cls with ranges, opened := false, first := false, dash := false }

/-- Whether a character closes a class; right after the opening it is a member. -/
def OpenClass.isClosedBy (cls : OpenClass) (c : Char) : Bool := c = ']' && !cls.first

/-- One more character of a class that does not close it. -/
def OpenClass.push (cls : OpenClass) (c : Char) : Except Fault OpenClass :=
  if cls.opened ∧ (c = '!' ∨ c = '^') then .ok { cls with negated := true, opened := false }
  else if cls.dash then
    match cls.ranges with
    | (low, _) :: ranges =>
      if c < low then .error (.invalidRange low c) else .ok (cls.add ((low, c) :: ranges))
    | [] => .ok (cls.add [(c, c)])
  else if c = '-' ∧ ¬ cls.first then .ok { cls with dash := true }
  else .ok (cls.add ((c, c) :: cls.ranges))

/-- Whether a class is closed in the rest of a glob. -/
def OpenClass.closesIn (cls : OpenClass) : List Char → Except Fault Bool
  | [] => .ok false
  | c :: rest =>
    if cls.isClosedBy c then .ok true
    else
      match cls.push c with
      | .error fault => .error fault
      | .ok next => next.closesIn rest

/-- The token of a class at its closing bracket; a dash left open is a dash. -/
def OpenClass.close (cls : OpenClass) : Token :=
  let ranges := if cls.dash then ('-', '-') :: cls.ranges else cls.ranges
  .charClass cls.negated ranges.reverse

/-- Puts a component wildcard in the place of the separator before it; repeated
wildcards at the start or the end are one. -/
def replaceSeparator (wildcard : Token) : List Token → List Token
  | .anyLead :: branch => .anyLead :: branch
  | .anyTail :: branch => .anyTail :: branch
  | _ :: branch => wildcard :: branch
  | [] => [wildcard]

/-- Whether two stars after `before` may stand for whole components. -/
def opensComponent (before : Option Char) (grouped : Bool) : Bool :=
  before == some '/' || (grouped && (before == some ',' || before == some '\x7b'))

/-- What an opening bracket means. -/
inductive Bracket where
  /-- It opens a class, and a class that is not closed is a fault. -/
  | strict
  /-- It opens a class if that is closed, and stands for itself otherwise. -/
  | lenient
  /-- It stands for itself. -/
  | plain
  deriving DecidableEq, Repr

/-- What opening brackets mean from the one before `rest` on. After one that is not closed
no later one is. -/
def Bracket.before (bracket : Bracket) (rest : List Char) : Except Fault Bracket :=
  match bracket with
  | .lenient => (OpenClass.closesIn {} rest).map fun closes => if closes then .lenient else .plain
  | bracket => .ok bracket

/-- Reads the rest of a glob. -/
def scan (bracket : Bracket) (cls : Option OpenClass) (before : Option Char) (branch : List Token)
    (groups : List OpenGroup) : List Char → Except Fault (List Token)
  | [] =>
    match cls, groups with
    | some _, _ => .error .unclosedClass
    | none, _ :: _ => .error .unclosedAlternates
    | none, [] => .ok branch.reverse
  | c :: rest =>
    match cls with
    | some current =>
      if current.isClosedBy c then
        scan bracket none (some c) (current.close :: branch) groups rest
      else
        match current.push c with
        | .error fault => .error fault
        | .ok next => scan bracket (some next) (some c) branch groups rest
    | none =>
      match c with
      | '?' => scan bracket none (some c) (.any :: branch) groups rest
      | '*' =>
        match rest with
        | '*' :: rest =>
          if branch.isEmpty then
            match rest with
            | [] => scan bracket none (some '*') (.anyLead :: branch) groups []
            | '/' :: rest => scan bracket none (some '/') (.anyLead :: branch) groups rest
            | rest => scan bracket none (some '*') (.star :: .star :: branch) groups rest
          else if opensComponent before (!groups.isEmpty) then
            match rest with
            | [] => scan bracket none (some '*') (replaceSeparator .anyTail branch) groups []
            | '/' :: rest =>
              scan bracket none (some '/') (replaceSeparator .anyMiddle branch) groups rest
            | next :: rest =>
              if (next = ',' ∨ next = '\x7d') ∧ ¬ groups.isEmpty then
                let branch := replaceSeparator .anyTail branch
                scan bracket none (some '*') branch groups (next :: rest)
              else scan bracket none (some '*') (.star :: .star :: branch) groups (next :: rest)
          else scan bracket none (some '*') (.star :: .star :: branch) groups rest
        | rest => scan bracket none (some c) (.star :: branch) groups rest
      | '[' =>
        match bracket.before rest with
        | .error fault => .error fault
        | .ok .plain => scan .plain none (some c) (.literal c :: branch) groups rest
        | .ok bracket => scan bracket (some {}) (some c) branch groups rest
      | '\x7b' => scan bracket none (some c) [] (⟨[], branch⟩ :: groups) rest
      | '\x7d' =>
        match groups with
        | [] => .error .unopenedAlternates
        | group :: groups =>
          let branches := (branch.reverse :: group.branches).reverse
          scan bracket none (some c) (.alternates branches :: group.outer) groups rest
      | ',' =>
        match groups with
        | [] => scan bracket none (some c) (.literal c :: branch) [] rest
        | group :: groups =>
          let group := { group with branches := branch.reverse :: group.branches }
          scan bracket none (some c) [] (group :: groups) rest
      | '\\' =>
        match rest with
        | [] => .error .danglingEscape
        | escaped :: rest =>
          scan bracket none (some escaped) (.literal escaped :: branch) groups rest
      | c => scan bracket none (some c) (.literal c :: branch) groups rest

end CodeAtlas.Glob

namespace CodeAtlas

/-- A readable glob: its text and its tokens. -/
structure Glob where
  text : String
  tokens : List Glob.Token

namespace Glob

/-- Reads a glob with brackets of a meaning, or says what is wrong with it. -/
def parseWith (bracket : Bracket) (text : String) : Except Error Glob :=
  match scan bracket none none [] [] text.toList with
  | .ok tokens => .ok ⟨text, tokens⟩
  | .error fault => .error ⟨some text, fault⟩

/-- Reads a glob; a class that is not closed is a fault. -/
def parse (text : String) : Except Error Glob := parseWith .strict text

/-- Reads a glob; a bracket that is not closed stands for itself. -/
def parseLenient (text : String) : Except Error Glob := parseWith .lenient text

end Glob

end CodeAtlas
