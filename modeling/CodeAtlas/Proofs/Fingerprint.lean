import CodeAtlas.Analyzer
import CodeAtlas.Proofs.Text.Utf8

/-!
# Fingerprints tell sources apart

A source is a text with its language and the identity it was read under. The bytes that
are hashed for two sources are the same exactly when the sources are, or when the identity
of one runs over the language of the other into its text (`Source.RunsOver`). This takes a
zero character in an identity: without one, the two zero bytes that divide the fields are
the first two. Hexadecimal text determines its bytes, so two sources that do not run over
each other share a cache key only if their digests collide. SHA-256 does collide somewhere;
`Sha256.Separates` says that it does not on the messages of a list.
-/

namespace CodeAtlas

namespace Sha256

/-- No two different messages of a list have the same digest. -/
def Separates (messages : List (List UInt8)) : Prop :=
  ∀ left ∈ messages, ∀ right ∈ messages, digest left = digest right → left = right

instance (messages : List (List UInt8)) : Decidable (Separates messages) :=
  inferInstanceAs (Decidable (∀ left ∈ messages, ∀ right ∈ messages,
    digest left = digest right → left = right))

/-- A hexadecimal digit determines its value. -/
theorem hexDigit_injective : ∀ m < 16, ∀ n < 16, hexDigit m = hexDigit n → m = n := by decide

/-- The two digits of a byte determine it. -/
theorem hexDigits_injective (left right : UInt8)
    (high : hexDigit (left.toNat / 16) = hexDigit (right.toNat / 16))
    (low : hexDigit (left.toNat % 16) = hexDigit (right.toNat % 16)) : left = right := by
  have leftBound := left.toNat_lt
  have rightBound := right.toNat_lt
  have quotients := hexDigit_injective _ (by omega) _ (by omega) high
  have remainders := hexDigit_injective _ (by omega) _ (by omega) low
  exact UInt8.toNat_inj.mp (by omega)

/-- Hexadecimal text determines the bytes it spells. -/
theorem hex_injective (left right : List UInt8) (same : hex left = hex right) : left = right := by
  have digits := String.ofList_injective same
  clear same
  induction left generalizing right with
  | nil =>
    cases right with
    | nil => rfl
    | cons byte bytes => simp at digits
  | cons byte bytes ih =>
    cases right with
    | nil => simp at digits
    | cons other others =>
      simp only [List.flatMap_cons, List.cons_append, List.nil_append, List.cons.injEq] at digits
      obtain ⟨high, low, rest⟩ := digits
      rw [hexDigits_injective byte other high low, ih others rest]

end Sha256

/-- A source as the tree cache knows it: a text, and the identity it was read under. -/
structure Source where
  identity : String
  unit : SourceUnit
  deriving DecidableEq, Repr

namespace Source

/-- The bytes that are hashed for a source. -/
def message (source : Source) : List UInt8 :=
  Fingerprint.preimage source.identity source.unit.language source.unit.text

/-- The cache key of a source. -/
def key (source : Source) : String :=
  Fingerprint.key source.identity source.unit.language source.unit.text

/-- Whether no zero character occurs in the identity of a source. -/
def Plain (source : Source) : Prop := Char.ofNat 0 ∉ source.identity.toList

instance (source : Source) : Decidable source.Plain :=
  inferInstanceAs (Decidable (Char.ofNat 0 ∉ source.identity.toList))

end Source

/-- The first separator of a list is where the part without one ends. -/
theorem append_cons_injective {α : Type} {separator : α} {left right rest others : List α}
    (leftPlain : separator ∉ left) (rightPlain : separator ∉ right)
    (same : left ++ separator :: rest = right ++ separator :: others) :
    left = right ∧ rest = others := by
  induction left generalizing right with
  | nil =>
    cases right with
    | nil => exact ⟨rfl, (List.cons.inj same).2⟩
    | cons head tail =>
      obtain ⟨rfl, _⟩ := List.cons.inj same
      exact absurd List.mem_cons_self rightPlain
  | cons head tail ih =>
    cases right with
    | nil =>
      obtain ⟨rfl, _⟩ := List.cons.inj same
      exact absurd List.mem_cons_self leftPlain
    | cons other more =>
      obtain ⟨rfl, tails⟩ := List.cons.inj same
      obtain ⟨rfl, rfl⟩ := ih (fun h => leftPlain (List.mem_cons_of_mem _ h))
        (fun h => rightPlain (List.mem_cons_of_mem _ h)) tails
      exact ⟨rfl, rfl⟩

/-- Two fields with a separator after each, and what follows, against others: the first field
is the same and what follows it, or the first field of the others goes on over the second one
and a part of the rest. -/
theorem append_cons_runs {α : Type} {separator : α} {between field other rest others : List α}
    (plain : separator ∉ field) (alsoPlain : separator ∉ other)
    (same : separator :: (field ++ separator :: rest) =
      between ++ separator :: (other ++ separator :: others)) :
    (between = [] ∧ field = other ∧ rest = others) ∨
      ∃ more, between = separator :: (field ++ more) ∧
        separator :: rest = more ++ separator :: (other ++ separator :: others) := by
  cases between with
  | nil => exact .inl ⟨rfl, append_cons_injective plain alsoPlain (List.cons.inj same).2⟩
  | cons head between =>
    obtain ⟨rfl, tails⟩ := List.cons.inj same
    refine .inr ?_
    obtain ⟨more, rfl, left⟩ | ⟨more, rfl, left⟩ := List.append_eq_append_iff.mp tails
    · exact ⟨more, rfl, left⟩
    · cases more with
      | nil => exact ⟨[], by simp, left.symm⟩
      | cons next more =>
        obtain ⟨rfl, -⟩ := List.cons.inj left
        exact absurd (List.mem_append_right _ List.mem_cons_self) plain

/-- The identifier of a language has no zero character. -/
theorem Language.id_plain (language : Language) : Char.ofNat 0 ∉ language.id.toList := by
  cases language <;> decide

/-- A language is determined by its identifier. -/
theorem Language.id_injective (left right : Language) (same : left.id = right.id) :
    left = right := by
  revert same
  cases left <;> cases right <;> decide

namespace Source

/-- The bytes that are hashed for a source are those of its fields, with a zero character
between neighbours. -/
theorem message_eq_utf8 (source : Source) :
    source.message = Text.utf8 (source.identity ++ "\x00" ++ source.unit.language.id ++ "\x00" ++
      source.unit.text) := by
  simp only [Text.utf8, String.toList_append, List.flatMap_append]
  rfl

/-- Whether the identity of one source goes on where that of another one ends, over the language
of the other and a part of its text. -/
def RunsOver (short long : Source) : Prop :=
  ∃ more : String,
    long.identity = short.identity ++ "\x00" ++ short.unit.language.id ++ more ∧
    "\x00" ++ short.unit.text =
      more ++ "\x00" ++ long.unit.language.id ++ "\x00" ++ long.unit.text

/-- An identity that runs over a language holds a zero character. -/
theorem RunsOver.not_plain {short long : Source} (runs : short.RunsOver long) : ¬ long.Plain := by
  obtain ⟨more, identity, -⟩ := runs
  unfold Plain
  rw [identity]
  simp

/-- Sources whose fields have the same characters are the same. -/
theorem eq_of_toList {left right : Source} (identity : left.identity.toList = right.identity.toList)
    (language : left.unit.language.id.toList = right.unit.language.id.toList)
    (text : left.unit.text.toList = right.unit.text.toList) : left = right := by
  obtain ⟨identity, language, text⟩ := left
  obtain ⟨otherIdentity, otherLanguage, otherText⟩ := right
  obtain rfl := String.toList_injective identity
  obtain rfl := Language.id_injective _ _ (String.toList_injective language)
  obtain rfl := String.toList_injective text
  rfl

/-- An identity runs over a language as its characters do. -/
theorem runsOver_ofList {short long : Source} {more : List Char}
    (identity : long.identity.toList = short.identity.toList ++
      Char.ofNat 0 :: (short.unit.language.id.toList ++ more))
    (text : Char.ofNat 0 :: short.unit.text.toList = more ++
      Char.ofNat 0 :: (long.unit.language.id.toList ++ Char.ofNat 0 :: long.unit.text.toList)) :
    short.RunsOver long := by
  refine ⟨String.ofList more, String.toList_injective ?_, String.toList_injective ?_⟩ <;>
    simp only [String.toList_append, String.toList_ofList, List.append_assoc]
  · exact identity
  · exact text

/-- The same bytes are hashed for a source and one whose identity runs over its language. -/
theorem RunsOver.message_eq {short long : Source} (runs : short.RunsOver long) :
    short.message = long.message := by
  obtain ⟨more, identity, text⟩ := runs
  have fields : short.identity ++ "\x00" ++ short.unit.language.id ++ "\x00" ++ short.unit.text =
      long.identity ++ "\x00" ++ long.unit.language.id ++ "\x00" ++ long.unit.text := by
    rw [identity, String.append_assoc, text]
    simp only [String.append_assoc]
  rw [message_eq_utf8, message_eq_utf8, fields]

/-- A text that an identity runs into holds a zero character. -/
theorem RunsOver.mem_text {short long : Source} (runs : short.RunsOver long) :
    Char.ofNat 0 ∈ short.unit.text.toList := by
  obtain ⟨more, -, text⟩ := runs
  have counts := congrArg (fun written => written.toList.count (Char.ofNat 0)) text
  simp only [String.toList_append, List.count_append] at counts
  have zero : "\x00".toList.count (Char.ofNat 0) = 1 := by decide
  exact List.count_pos_iff.mp (by omega)

/-- The bytes that are hashed for two sources are the same exactly when the sources are, or when
the identity of one runs over the language of the other. -/
theorem message_eq_iff_runsOver {left right : Source} :
    left.message = right.message ↔ left = right ∨ left.RunsOver right ∨ right.RunsOver left := by
  constructor
  · intro same
    rw [message_eq_utf8, message_eq_utf8] at same
    have lists := congrArg String.toList (Text.utf8_injective _ _ same)
    simp only [String.toList_append, List.append_assoc] at lists
    -- One of the identities begins the other.
    obtain ⟨between, longer, rest⟩ | ⟨between, longer, rest⟩ := List.append_eq_append_iff.mp lists
    · obtain ⟨rfl, language, text⟩ | ⟨more, rfl, text⟩ :=
        append_cons_runs left.unit.language.id_plain right.unit.language.id_plain rest
      · exact .inl (eq_of_toList (by simpa using longer.symm) language text)
      · exact .inr (.inl (runsOver_ofList longer text))
    · obtain ⟨rfl, language, text⟩ | ⟨more, rfl, text⟩ :=
        append_cons_runs right.unit.language.id_plain left.unit.language.id_plain rest
      · exact .inl (eq_of_toList (by simpa using longer) language.symm text.symm)
      · exact .inr (.inr (runsOver_ofList longer text))
  · rintro (rfl | runs | runs)
    · rfl
    · exact runs.message_eq
    · exact runs.message_eq.symm

/-- Keys tell the sources of a list apart. -/
def Apart (sources : List Source) : Prop :=
  ∀ left ∈ sources, ∀ right ∈ sources, left.key = right.key → left = right

/-- Where digests do not collide and no identity runs over, keys tell sources apart. -/
theorem apart_of_not_runsOver {sources : List Source}
    (separated : Sha256.Separates (sources.map message))
    (none : ∀ left ∈ sources, ∀ right ∈ sources, ¬ left.RunsOver right) : Apart sources := by
  intro left first right second same
  have digests := Sha256.hex_injective _ _ same
  have messages := separated left.message (List.mem_map_of_mem first) right.message
    (List.mem_map_of_mem second) digests
  obtain equal | runs | runs := message_eq_iff_runsOver.mp messages
  · exact equal
  · exact absurd runs (none left first right second)
  · exact absurd runs (none right second left first)

/-- Where digests do not collide, keys tell sources apart whose identities have no zero
character. -/
theorem apart_of_separates {sources : List Source}
    (separated : Sha256.Separates (sources.map message))
    (plain : ∀ source ∈ sources, source.Plain) : Apart sources :=
  apart_of_not_runsOver separated fun _ _ right second runs => runs.not_plain (plain right second)

end Source

end CodeAtlas
