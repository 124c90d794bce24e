import CodeAtlas.Environment.Settings
import Mathlib.Tactic.SplitIfs

/-!
# What settings files add

Whether a line of a settings file can be read does not depend on the environment, and nor does
the name it assigns to; only the value does. So the lines that count are known from the files
alone: of each file those before its first unreadable line, through the first file that has
none. Together they are read like one file. A file that fails is therefore not undone: it counts
as a missing one only when it assigns nothing before its unreadable line.
-/

namespace CodeAtlas

namespace SettingsLine

/-! ## Values in different environments -/

namespace State

/-- Where a reader of a value stands, whatever it has read. -/
def stand (state : State) : Mode × Bool := (state.mode, state.quoted)

variable {state other : State} (expand expand' : String → String)

/-- A character outside quotes leads on without regard to the value. -/
theorem stand_readPlain (same : state.stand = other.stand) (c : Char) :
    (state.readPlain c).stand = (other.readPlain c).stand := by
  obtain ⟨mode, quoted⟩ := Prod.mk.inj same
  unfold readPlain
  rw [quoted]
  split_ifs <;> simp [stand, push, mode, quoted]

/-- A character of a mention leads on without regard to what is mentioned. -/
theorem stand_readMention (same : state.stand = other.stand) (name : List Char) (c : Char) :
    (state.readMention expand name c).stand = (other.readMention expand' name c).stand := by
  obtain ⟨-, quoted⟩ := Prod.mk.inj same
  unfold readMention
  simp only [substitute, push]
  split_ifs <;> simp [stand, quoted]

/-- One character leads on without regard to the environment. -/
theorem stand_step? (same : state.stand = other.stand) (c : Char) :
    (state.step? expand c).map stand = (other.step? expand' c).map stand := by
  obtain ⟨mode, quoted⟩ := Prod.mk.inj same
  unfold step?
  rw [← mode]
  cases state.mode with
  | plain => exact congrArg some (stand_readPlain same c)
  | literal => split_ifs <;> simp [stand, quoted]
  | escape =>
    unfold readEscape?
    split_ifs <;> simp [stand, push, quoted]
  | mention name => exact congrArg some (stand_readMention expand expand' same name c)
  | braced name =>
    unfold substitute
    split_ifs <;> simp [stand, quoted]
  | ended => split_ifs <;> simp [stand, mode, quoted]
  | comment => exact congrArg some same

/-- Characters lead on without regard to the environment. -/
theorem stand_foldlM (same : state.stand = other.stand) (cs : List Char) :
    (cs.foldlM (step? expand) state).map stand = (cs.foldlM (step? expand') other).map stand := by
  induction cs generalizing state other with
  | nil => exact congrArg some same
  | cons c cs ih =>
    have next := stand_step? expand expand' same c
    rw [List.foldlM_cons, List.foldlM_cons]
    revert next
    cases state.step? expand c <;> cases other.step? expand' c <;> intro next
    · rfl
    · cases next
    · cases next
    · exact ih (Option.some.inj next)

/-- Whether a line may end does not depend on the environment. -/
theorem isSome_finish? (same : state.stand = other.stand) :
    (state.finish? expand).isSome = (other.finish? expand').isSome := by
  obtain ⟨mode, quoted⟩ := Prod.mk.inj same
  unfold finish?
  rw [← mode, ← quoted]
  split
  · rfl
  · cases state.mode <;> rfl

end State

/-- Whether a value can be read does not depend on the environment. -/
theorem isSome_value? (expand expand' : String → String) (cs : List Char) :
    (value? expand cs).isSome = (value? expand' cs).isSome := by
  have read := State.stand_foldlM expand expand' (rfl : State.stand {} = _) cs
  unfold value?
  revert read
  cases cs.foldlM (State.step? expand) {} <;> cases cs.foldlM (State.step? expand') {} <;>
    intro read
  · rfl
  · cases read
  · cases read
  · exact State.isSome_finish? expand expand' (Option.some.inj read)

/-! ## Lines in different environments -/

/-- What a line says apart from the value. -/
def withoutValue : SettingsLine → SettingsLine
  | assignment name _ => assignment name ""
  | line => line

/-- What a line says depends on the environment only in the value. -/
theorem withoutValue_read (expand expand' : String → String) (line : List Char) :
    (read expand line).withoutValue = (read expand' line).withoutValue := by
  unfold read
  simp only
  split
  · rfl
  · split
    · rfl
    · rename_i name rest _
      split
      · rfl
      · have readable := isSome_value? expand expand' (Chars.trimStart rest)
        revert readable
        cases value? expand (Chars.trimStart rest) <;>
          cases value? expand' (Chars.trimStart rest) <;> intro readable
        · rfl
        · cases readable
        · cases readable
        · rfl

/-- What the bytes of a line say apart from the value. -/
def ofBytes (bytes : List UInt8) : SettingsLine :=
  match textOfBytes? bytes with
  | none => .malformed
  | some line => (read (fun _ => "") line.toList).withoutValue

/-- Whether the bytes of a line can be read. -/
def isReadable (bytes : List UInt8) : Bool := ofBytes bytes ≠ .malformed

/-- Whether the bytes of a line assign a value to a name. -/
def Assigns (name : String) (bytes : List UInt8) : Prop := ofBytes bytes = .assignment name ""

end SettingsLine

/-- The environment of a settings file whose every line was read. -/
def Loading.completed? : Loading → Option Environment
  | .complete environment => some environment
  | _ => none

namespace Environment

open SettingsLine

variable {environment after : Environment} {lines : List (List UInt8)} {bytes : List UInt8}
  {content : ByteArray}

/-! ## Loading lines -/

/-- An unreadable line ends the loading. -/
theorem loadLines_unreadable (unreadable : isReadable bytes = false)
    (environment : Environment) (lines : List (List UInt8)) :
    environment.loadLines (bytes :: lines) = .stopped environment := by
  have malformed : ofBytes bytes = .malformed := by simpa [isReadable] using unreadable
  unfold loadLines
  cases spelt : textOfBytes? bytes with
  | none => rfl
  | some line =>
    have said := withoutValue_read (fun _ => "") environment.expand line.toList
    simp only [ofBytes, spelt] at malformed
    rw [malformed] at said
    simp only
    cases found : read environment.expand line.toList with
    | malformed => rfl
    | blank =>
      rw [found] at said
      cases said
    | assignment name value =>
      rw [found] at said
      cases said

/-- What a readable line does: nothing, or it gives a variable a value unless it has one. -/
theorem loadLines_readable (readable : isReadable bytes = true) (environment : Environment) :
    (∀ lines, environment.loadLines (bytes :: lines) = environment.loadLines lines) ∨
      ∃ name value, Assigns name bytes ∧ ∀ lines, environment.loadLines (bytes :: lines) =
        match environment.setDefault? name value with
        | some environment => environment.loadLines lines
        | none => .refused := by
  have said : ofBytes bytes ≠ .malformed := by simpa [isReadable] using readable
  simp only [loadLines]
  unfold Assigns
  cases spelt : textOfBytes? bytes with
  | none => exact absurd (by rw [ofBytes, spelt]) said
  | some line =>
    have same := withoutValue_read (fun _ => "") environment.expand line.toList
    simp only [ofBytes, spelt] at said ⊢
    rw [same] at said ⊢
    cases found : read environment.expand line.toList with
    | malformed => exact absurd (by rw [found]; rfl) said
    | blank => exact .inl fun _ => rfl
    | assignment name value => exact .inr ⟨name, value, rfl, fun _ => rfl⟩

/-- Lines are loaded one part after the other, as long as the loading does not end. -/
theorem loadLines_append (environment : Environment) (first second : List (List UInt8)) :
    environment.loadLines (first ++ second) =
      match environment.loadLines first with
      | .complete environment => environment.loadLines second
      | .stopped environment => .stopped environment
      | .refused => .refused := by
  induction first generalizing environment with
  | nil => rfl
  | cons bytes first ih =>
    rw [List.cons_append]
    by_cases readable : isReadable bytes = true
    · obtain same | ⟨name, value, _, same⟩ := loadLines_readable readable environment
      · rw [same, same, ih]
      · rw [same, same]
        cases environment.setDefault? name value with
        | none => rfl
        | some next => exact ih next
    · have unreadable := Bool.not_eq_true _ ▸ readable
      rw [loadLines_unreadable unreadable, loadLines_unreadable unreadable]

/-- Readable lines never stop the loading. -/
theorem loadLines_ne_stopped (readable : ∀ bytes ∈ lines, isReadable bytes = true)
    (environment after : Environment) : environment.loadLines lines ≠ .stopped after := by
  induction lines generalizing environment with
  | nil => exact Loading.noConfusion
  | cons bytes lines ih =>
    obtain ⟨here, others⟩ := List.forall_mem_cons.mp readable
    obtain same | ⟨name, value, _, same⟩ := loadLines_readable here environment
    · rw [same]
      exact ih others environment
    · rw [same]
      cases environment.setDefault? name value with
      | none => exact Loading.noConfusion
      | some next => exact ih others next

/-! ## Variables -/

/-- An environment keeps the variables of another, and adds none but those with given names. -/
structure Extends (added : String → Prop) (before after : Environment) : Prop where
  kept : ∀ name, (before.get? name).isSome = true → after.get? name = before.get? name
  new : ∀ name, after.get? name ≠ before.get? name → added name

/-- Nothing need be added. -/
theorem extends_refl (added : String → Prop) (environment : Environment) :
    Extends added environment environment where
  kept _ _ := rfl
  new _ changed := absurd rfl changed

/-- Variables may be added in two steps. -/
theorem Extends.trans {added : String → Prop} {before middle after : Environment}
    (first : Extends added before middle) (second : Extends added middle after) :
    Extends added before after where
  kept name given := by
    have same := first.kept name given
    rw [second.kept name (same ▸ given), same]
  new name changed := by
    by_cases same : middle.get? name = before.get? name
    · exact second.new name (same ▸ changed)
    · exact first.new name same

/-- A default adds its own variable at most. -/
theorem extends_setDefault? {added : String → Prop} {name value : String}
    (named : added name) (done : environment.setDefault? name value = some after) :
    Extends added environment after := by
  unfold setDefault? at done
  split at done
  · cases done
    exact extends_refl added environment
  · rename_i absent
    split at done
    · cases done
      have others {other : String} (different : name ≠ other) :
          (environment.set name value).get? other = environment.get? other := by
        simp [get?, set, different]
      constructor
      · intro other given
        exact others fun same => absent (same ▸ given)
      · intro other changed
        by_cases same : name = other
        · exact same ▸ named
        · exact absurd (others same) changed
    · cases done

/-- Loading lines adds no variables but those that the lines assign. -/
theorem loadLines_extends (done : environment.loadLines lines = .complete after) :
    Extends (fun name => ∃ bytes ∈ lines, Assigns name bytes) environment after := by
  suffices grown : ∀ added : String → Prop,
      (∀ bytes ∈ lines, ∀ name, Assigns name bytes → added name) →
        Extends added environment after from
    grown _ fun bytes member name assigns => ⟨bytes, member, assigns⟩
  intro added named
  induction lines generalizing environment with
  | nil =>
    cases done
    exact extends_refl added _
  | cons bytes lines ih =>
    obtain ⟨here, others⟩ := List.forall_mem_cons.mp named
    by_cases readable : isReadable bytes = true
    · obtain same | ⟨name, value, assigns, same⟩ := loadLines_readable readable environment
      · rw [same] at done
        exact ih done others
      · rw [same] at done
        cases set : environment.setDefault? name value with
        | none =>
          rw [set] at done
          cases done
        | some next =>
          rw [set] at done
          exact (extends_setDefault? (here name assigns) set).trans (ih done others)
    · rw [loadLines_unreadable (Bool.not_eq_true _ ▸ readable)] at done
      cases done

/-! ## Loading files -/

/-- The lines of a settings file. -/
def linesOf (content : ByteArray) : List (List UInt8) := byteLines content.data.toList

/-- The lines of settings files that count: of each file those before its first unreadable
line, through the first file that has none. -/
def linesRead : List (Option (Except PathError ByteArray)) → List (List UInt8)
  | some (.ok content) :: rest =>
    if (linesOf content).all isReadable then linesOf content
    else (linesOf content).takeWhile isReadable ++ linesRead rest
  | _ :: rest => linesRead rest
  | [] => []

/-- A file without an unreadable line is loaded completely, unless a value is refused. -/
theorem loadFirst?_whole (whole : (linesOf content).all isReadable = true)
    (environment : Environment) (rest : List (Option (Except PathError ByteArray))) :
    environment.loadFirst? (some (.ok content) :: rest) =
      (environment.loadLines (linesOf content)).completed? := by
  rw [loadFirst?]
  cases loaded : environment.load content with
  | complete after => exact (congrArg Loading.completed? loaded).symm
  | stopped after =>
    exact absurd loaded (loadLines_ne_stopped (List.all_eq_true.mp whole) environment after)
  | refused => exact (congrArg Loading.completed? loaded).symm

/-- A file with an unreadable line leaves what stands before that line, and the next file is
looked at. -/
theorem loadFirst?_failed (failed : (linesOf content).all isReadable = false)
    (environment : Environment) (rest : List (Option (Except PathError ByteArray))) :
    environment.loadFirst? (some (.ok content) :: rest) =
      (environment.loadLines ((linesOf content).takeWhile isReadable)).completed?.bind
        fun environment => environment.loadFirst? rest := by
  have readable : ∀ bytes ∈ (linesOf content).takeWhile isReadable, isReadable bytes = true :=
    List.all_eq_true.mp List.all_takeWhile
  -- The first line that is not taken is the unreadable one.
  have split := List.takeWhile_append_dropWhile (p := isReadable) (l := linesOf content)
  cases left : (linesOf content).dropWhile isReadable with
  | nil =>
    rw [left, List.append_nil] at split
    rw [← split, List.all_eq_true.mpr readable] at failed
    cases failed
  | cons bytes others =>
    have unreadable : isReadable bytes = false := by
      have head := List.head?_dropWhile_not isReadable (linesOf content)
      rw [left] at head
      exact head
    have loaded : environment.load content =
        environment.loadLines ((linesOf content).takeWhile isReadable ++ bytes :: others) := by
      rw [← left, split]
      rfl
    rw [loadFirst?, loaded, loadLines_append]
    cases ended : environment.loadLines ((linesOf content).takeWhile isReadable) with
    | complete after =>
      simp only
      rw [loadLines_unreadable unreadable]
      rfl
    | stopped after => exact absurd ended (loadLines_ne_stopped readable environment after)
    | refused => rfl

/-- Settings files are read like one file of the lines that count. -/
theorem loadFirst?_eq (environment : Environment)
    (files : List (Option (Except PathError ByteArray))) :
    environment.loadFirst? files = (environment.loadLines (linesRead files)).completed? := by
  induction files generalizing environment with
  | nil => rfl
  | cons file rest ih =>
    match file with
    | none => exact ih environment
    | some (.error _) => exact ih environment
    | some (.ok content) =>
      unfold linesRead
      split
      · rename_i whole
        exact loadFirst?_whole whole environment rest
      · rename_i failed
        rw [loadFirst?_failed (Bool.not_eq_true _ ▸ failed), loadLines_append]
        cases environment.loadLines ((linesOf content).takeWhile isReadable) with
        | complete after => exact ih after
        | stopped after => rfl
        | refused => rfl

/-- Nothing after a file without an unreadable line counts. -/
theorem linesRead_whole (whole : (linesOf content).all isReadable = true)
    (files rest : List (Option (Except PathError ByteArray))) :
    linesRead (files ++ some (.ok content) :: rest) =
      linesRead (files ++ [some (.ok content)]) := by
  induction files with
  | nil => simp [linesRead, whole]
  | cons file files ih =>
    match file with
    | none => exact ih
    | some (.error _) => exact ih
    | some (.ok other) => simp only [List.cons_append, linesRead, ih]

/-- Readable lines that assign nothing change nothing. -/
theorem loadLines_idle (readable : ∀ bytes ∈ lines, isReadable bytes = true)
    (idle : ∀ bytes ∈ lines, ∀ name, ¬Assigns name bytes) (environment : Environment) :
    environment.loadLines lines = .complete environment := by
  induction lines with
  | nil => rfl
  | cons bytes lines ih =>
    obtain ⟨here, others⟩ := List.forall_mem_cons.mp readable
    obtain ⟨quiet, rest⟩ := List.forall_mem_cons.mp idle
    obtain same | ⟨name, value, assigns, _⟩ := loadLines_readable here environment
    · rw [same, ih others rest]
    · exact absurd assigns (quiet name)

/-- Settings files are read like one file of the lines that count: they add only variables that
those lines assign, and change none. No file counts after one that loads. A file that fails
counts as a missing one when no line before its unreadable one assigns anything. -/
theorem settings_as_one_file (environment : Environment)
    (files : List (Option (Except PathError ByteArray))) :
    environment.loadFirst? files = (environment.loadLines (linesRead files)).completed? ∧
    (∀ after, environment.loadFirst? files = some after →
      Extends (fun name => ∃ bytes ∈ linesRead files, Assigns name bytes) environment after) ∧
    (∀ content rest, (linesOf content).all isReadable = true →
      environment.loadFirst? (files ++ some (.ok content) :: rest) =
        environment.loadFirst? (files ++ [some (.ok content)])) ∧
    ∀ content rest, (linesOf content).all isReadable = false →
      (∀ bytes ∈ (linesOf content).takeWhile isReadable, ∀ name, ¬Assigns name bytes) →
        environment.loadFirst? (some (.ok content) :: rest) =
          environment.loadFirst? (none :: rest) := by
  refine ⟨loadFirst?_eq environment files, ?_, ?_, ?_⟩
  · intro after settled
    rw [loadFirst?_eq] at settled
    cases done : environment.loadLines (linesRead files) with
    | complete last =>
      rw [done] at settled
      cases settled
      exact loadLines_extends done
    | stopped last =>
      rw [done] at settled
      cases settled
    | refused =>
      rw [done] at settled
      cases settled
  · intro content rest whole
    rw [loadFirst?_eq, loadFirst?_eq, linesRead_whole whole]
  · intro content rest failed idle
    rw [loadFirst?_failed failed,
      loadLines_idle (List.all_eq_true.mp List.all_takeWhile) idle environment]
    rfl

/-- A settings file with an assignment and an unreadable line after it. -/
def brokenSettings : ByteArray := "A=1\n=\n".toUTF8

/-- A settings file with a comment and an unreadable line after it. -/
def remarkedSettings : ByteArray := "# none\n=\n".toUTF8

/-- A settings file with one assignment. -/
def soundSettings : ByteArray := "B=2\n".toUTF8

/-- After a remark a failing file counts as missing, and nothing counts after a sound one. -/
theorem settings_as_one_file_remarked :
    ((linesOf remarkedSettings).all isReadable = false ∧
      (∀ bytes ∈ (linesOf remarkedSettings).takeWhile isReadable, ∀ name, ¬Assigns name bytes) ∧
      loadFirst? {} [some (.ok remarkedSettings), some (.ok soundSettings)] =
        loadFirst? {} [none, some (.ok soundSettings)]) ∧
    ((linesOf soundSettings).all isReadable = true ∧
      loadFirst? {} [some (.ok soundSettings), some (.ok brokenSettings)] =
        loadFirst? {} [some (.ok soundSettings)]) ∧
    loadFirst? {} [some (.ok soundSettings)] = some ⟨[("B", "2")]⟩ ∧
      Extends (fun name => ∃ bytes ∈ linesRead [some (.ok soundSettings)], Assigns name bytes)
        {} ⟨[("B", "2")]⟩ := by
  have failed : (linesOf remarkedSettings).all isReadable = false := by decide +kernel
  have idle : ∀ bytes ∈ (linesOf remarkedSettings).takeWhile isReadable,
      ∀ name, ¬Assigns name bytes := by
    have blank : ∀ bytes ∈ (linesOf remarkedSettings).takeWhile isReadable,
        ofBytes bytes = .blank := by decide +kernel
    intro bytes member name assigns
    rw [Assigns, blank bytes member] at assigns
    cases assigns
  have whole : (linesOf soundSettings).all isReadable = true := by decide +kernel
  have settled : loadFirst? {} [some (.ok soundSettings)] = some ⟨[("B", "2")]⟩ := by
    decide +kernel
  refine ⟨⟨failed, idle, ?_⟩, ⟨whole, ?_⟩, settled, ?_⟩
  · exact (settings_as_one_file {} []).2.2.2 remarkedSettings [some (.ok soundSettings)] failed idle
  · exact (settings_as_one_file {} []).2.2.1 soundSettings [some (.ok brokenSettings)] whole
  · exact (settings_as_one_file {} [some (.ok soundSettings)]).2.1 _ settled

/-- A failing file is not undone: two files take effect together. -/
theorem settings_as_one_file_broken :
    load {} brokenSettings = .stopped ⟨[("A", "1")]⟩ ∧
    loadFirst? {} [some (.ok brokenSettings), some (.ok soundSettings)] =
      some ⟨[("B", "2"), ("A", "1")]⟩ ∧
    loadFirst? {} [none, some (.ok soundSettings)] = some ⟨[("B", "2")]⟩ := by
  decide +kernel

end Environment

end CodeAtlas
