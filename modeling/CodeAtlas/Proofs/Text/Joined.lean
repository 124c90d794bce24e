import CodeAtlas.Path
import Mathlib.Data.List.Infix

/-!
# Names joined to a path

Names without a separator can be read back from the path they are joined to, so that one list
of names begins another exactly when its path, with a separator at the end, begins the other
path. A path below a path below a directory is a path below the directory.
-/

namespace CodeAtlas

namespace Chars

variable {separator : Char} {pieces : List (List Char)}

/-! ## Joining -/

/-- Joined pieces with one more in front. -/
theorem join_cons (separator piece : List Char) (some : pieces ≠ []) :
    join separator (piece :: pieces) = piece ++ separator ++ join separator pieces := by
  obtain ⟨next, others, rfl⟩ := List.exists_cons_of_ne_nil some
  rfl

/-- Joining two lists of pieces puts a separator between them. -/
theorem join_append (separator : List Char) {first second : List (List Char)}
    (left : first ≠ []) (right : second ≠ []) :
    join separator (first ++ second) =
      join separator first ++ separator ++ join separator second := by
  induction first with
  | nil => exact absurd rfl left
  | cons piece first ih =>
    rw [List.cons_append, join_cons _ _ (List.append_ne_nil_of_right_ne_nil first right)]
    by_cases last : first = []
    · subst last
      rfl
    · rw [ih last, join_cons _ _ last]
      simp only [List.append_assoc]

/-- A character of joined pieces is one of the separator or of a piece. -/
theorem mem_join {separator : List Char} {c : Char} (member : c ∈ join separator pieces) :
    c ∈ separator ∨ ∃ piece ∈ pieces, c ∈ piece := by
  induction pieces with
  | nil => cases member
  | cons piece pieces ih =>
    by_cases last : pieces = []
    · subst last
      exact .inr ⟨piece, List.mem_singleton_self piece, member⟩
    · rw [join_cons _ _ last, List.append_assoc, List.mem_append, List.mem_append] at member
      obtain here | here | later := member
      · exact .inr ⟨piece, List.mem_cons_self, here⟩
      · exact .inl here
      · obtain inside | ⟨found, listed, inside⟩ := ih later
        · exact .inl inside
        · exact .inr ⟨found, List.mem_cons_of_mem piece listed, inside⟩

/-! ## Splitting -/

/-- There is always a piece. -/
theorem splitAt_ne_nil (separator : Char) (text : List Char) : splitAt separator text ≠ [] := by
  fun_cases splitAt separator text <;> nofun

/-- A text is split at every separator. -/
theorem splitAt_append (before after : List Char) :
    splitAt separator (before ++ separator :: after) =
      splitAt separator before ++ splitAt separator after := by
  induction before with
  | nil => simp [splitAt]
  | cons c before ih =>
    obtain ⟨piece, pieces, split⟩ :=
      List.exists_cons_of_ne_nil (splitAt_ne_nil separator before)
    simp only [List.cons_append, splitAt, ih, split]
    split <;> rfl

/-- A text without a separator is one piece. -/
theorem splitAt_of_notMem {text : List Char} (plain : separator ∉ text) :
    splitAt separator text = [text] := by
  induction text with
  | nil => rfl
  | cons c text ih =>
    obtain ⟨other, rest⟩ := not_or.mp (mt List.mem_cons.mpr plain)
    rw [splitAt, if_neg (Ne.symm other), ih rest]

/-- Pieces without a separator are read back from where they are joined. -/
theorem splitAt_join (some : pieces ≠ []) (plain : ∀ piece ∈ pieces, separator ∉ piece) :
    splitAt separator (join [separator] pieces) = pieces := by
  induction pieces with
  | nil => exact absurd rfl some
  | cons piece pieces ih =>
    obtain ⟨here, others⟩ := List.forall_mem_cons.mp plain
    by_cases last : pieces = []
    · subst last
      exact splitAt_of_notMem here
    · rw [join_cons _ _ last, List.append_assoc, List.singleton_append, splitAt_append,
        splitAt_of_notMem here, ih last others, List.singleton_append]

/-- Joined pieces and a separator begin other joined pieces exactly when these begin with
them and go on. -/
theorem join_append_prefix {others : List (List Char)} (some : pieces ≠ [])
    (plain : ∀ piece ∈ pieces, separator ∉ piece)
    (alsoPlain : ∀ piece ∈ others, separator ∉ piece) :
    join [separator] pieces ++ [separator] <+: join [separator] others ↔
      ∃ rest, rest ≠ [] ∧ others = pieces ++ rest := by
  constructor
  · rintro ⟨after, same⟩
    rw [List.append_assoc, List.singleton_append] at same
    have more : others ≠ [] := by
      rintro rfl
      exact absurd same (List.append_ne_nil_of_right_ne_nil _ (List.cons_ne_nil _ _))
    refine ⟨splitAt separator after, splitAt_ne_nil _ _, ?_⟩
    rw [← splitAt_join more alsoPlain, ← same, splitAt_append, splitAt_join some plain]
  · rintro ⟨rest, more, rfl⟩
    rw [join_append _ some more]
    exact List.prefix_append _ _

end Chars

namespace Text

/-- The characters of joined names. -/
theorem toList_join (names : List String) :
    (join "/" names).toList = Chars.join ['/'] (names.map String.toList) :=
  String.toList_ofList

/-- Joining two lists of texts puts a separator between them. -/
theorem join_append {separator : String} {first second : List String} (left : first ≠ [])
    (right : second ≠ []) :
    join separator (first ++ second) =
      join separator first ++ separator ++ join separator second := by
  apply String.toList_injective
  simp only [join, String.toList_append, String.toList_ofList, List.map_append]
  exact Chars.join_append _ (mt List.map_eq_nil_iff.mp left) (mt List.map_eq_nil_iff.mp right)

/-- Texts of which none is empty are not joined to an empty one. -/
theorem join_ne_empty {separator : String} {pieces : List String} (some : pieces ≠ [])
    (visible : ∀ piece ∈ pieces, piece ≠ "") : join separator pieces ≠ "" := by
  obtain ⟨piece, others, rfl⟩ := List.exists_cons_of_ne_nil some
  have first : piece.toList ≠ [] :=
    mt String.toList_eq_nil_iff.mp (visible piece List.mem_cons_self)
  rw [join, ne_eq, ← String.toList_eq_nil_iff, String.toList_ofList]
  cases others with
  | nil => exact first
  | cons next others =>
    rw [List.map_cons, Chars.join_cons _ _ (by simp), List.append_assoc]
    exact List.append_ne_nil_of_left_ne_nil first _

/-- A text is split at every separator. -/
theorem splitAt_append (before after : String) :
    splitAt '/' (before ++ "/" ++ after) = splitAt '/' before ++ splitAt '/' after := by
  unfold splitAt
  rw [← List.map_append, ← Chars.splitAt_append]
  simp

/-- A character that does not occur is not replaced. -/
theorem replaceChar_of_notMem {old : Char} {text : String} (absent : old ∉ text.toList)
    (new : Char) : replaceChar old new text = text := by
  have same : (text.toList.map fun c => if c = old then new else c) = text.toList.map id :=
    List.map_congr_left fun c member =>
      if_neg fun found : c = old => absent (found ▸ member)
  rw [replaceChar, same, List.map_id, String.ofList_toList]

/-- Texts with the same beginning are ordered as what follows it. -/
theorem append_le_append (lead : String) {left right : String} (ordered : left ≤ right) :
    lead ++ left ≤ lead ++ right := by
  intro less
  refine ordered ?_
  rw [String.lt_iff, String.toList_append, String.toList_append] at less
  rw [String.lt_iff]
  generalize lead.toList = lead at less
  induction lead with
  | nil => exact less
  | cons c lead ih =>
    obtain first | ⟨-, rest⟩ := List.cons_lt_cons_iff.mp less
    · exact absurd first (Char.lt_irrefl c)
    · exact ih rest

end Text

namespace Path

/-- Whether a text can be the name of an entry: not empty, neither dot nor dots, and without
a separator. -/
def IsName (name : String) : Prop :=
  name ≠ "" ∧ name ≠ "." ∧ name ≠ ".." ∧ '/' ∉ name.toList

/-- Whether a text can be a name is decidable. -/
instance (name : String) : Decidable (IsName name) :=
  inferInstanceAs (Decidable (_ ∧ _ ∧ _ ∧ _))

variable {directory : String} {sub names rest : List String}

/-! ## Names in a path -/

/-- Names are read back from the path they are joined to. -/
theorem splitAt_join (some : names ≠ []) (proper : ∀ name ∈ names, IsName name) :
    Text.splitAt '/' (Text.join "/" names) = names := by
  unfold Text.splitAt
  rw [Text.toList_join, Chars.splitAt_join (mt List.map_eq_nil_iff.mp some), List.map_map]
  · simp
  · simpa using fun name member => (proper name member).2.2.2

/-- Names that are joined to one path are the same. -/
theorem join_injective (some : names ≠ []) (also : rest ≠ []) (proper : ∀ name ∈ names, IsName name)
    (alsoProper : ∀ name ∈ rest, IsName name) (same : Text.join "/" names = Text.join "/" rest) :
    names = rest := by
  rw [← splitAt_join some proper, same, splitAt_join also alsoProper]

/-- A path and a separator begin another path exactly when its names begin the other's. -/
theorem startsWith_join (some : sub ≠ []) (proper : ∀ name ∈ sub, IsName name)
    (alsoProper : ∀ name ∈ names, IsName name) :
    Text.startsWith (Text.join "/" sub ++ "/") (Text.join "/" names) = true ↔
      ∃ rest, rest ≠ [] ∧ names = sub ++ rest := by
  unfold Text.startsWith
  rw [List.isPrefixOf_iff_prefix, String.toList_append, Text.toList_join, Text.toList_join]
  refine (Chars.join_append_prefix (mt List.map_eq_nil_iff.mp some) ?_ ?_).trans ?_
  · simpa using fun name member => (proper name member).2.2.2
  · simpa using fun name member => (alsoProper name member).2.2.2
  constructor
  · rintro ⟨rest, more, same⟩
    obtain ⟨first, second, rfl, left, rfl⟩ := List.map_eq_append_iff.mp same
    obtain rfl := List.map_injective_iff.mpr (fun _ _ => String.toList_injective) left
    exact ⟨second, by simpa using more, rfl⟩
  · rintro ⟨rest, more, rfl⟩
    exact ⟨rest.map String.toList, by simpa using more, List.map_append⟩

/-! ## Paths below a directory -/

/-- What stands before names that lead on from a directory. -/
def lead (directory : String) : String :=
  if directory = "" ∨ Text.endsWith "/" directory then directory else directory ++ "/"

/-- The path that names lead to. -/
theorem below_eq (directory : String) (some : names ≠ []) :
    below directory names = lead directory ++ Text.join "/" names := by
  unfold below join lead
  rw [List.isEmpty_eq_false_iff.mpr some, if_neg Bool.false_ne_true]
  split <;> rfl

/-- What stands before the names ends in a separator, which the path of the directory may
lack. -/
theorem exists_lead (some : directory ≠ "") :
    ∃ base, lead directory = base ++ "/" ∧ (directory = base ∨ directory = base ++ "/") := by
  unfold lead
  split
  · rename_i slashed
    obtain ⟨base, same⟩ := List.isSuffixOf_iff_suffix.mp (slashed.resolve_left some)
    have written : directory = String.ofList base ++ "/" := by
      apply String.toList_injective
      rw [String.toList_append, String.toList_ofList, same]
    exact ⟨String.ofList base, written, .inr written⟩
  · exact ⟨directory, rfl, .inl rfl⟩

/-- The last names in a path are those that lead on from its directory. -/
theorem splitAt_below (directory : String) (some : sub ≠ [])
    (proper : ∀ name ∈ sub, IsName name) :
    ∃ before, Text.splitAt '/' (below directory sub) = before ++ sub := by
  rw [below_eq directory some]
  by_cases empty : directory = ""
  · subst empty
    exact ⟨[], splitAt_join some proper⟩
  · obtain ⟨base, leads, -⟩ := exists_lead empty
    rw [leads, Text.splitAt_append, splitAt_join some proper]
    exact ⟨_, rfl⟩

/-- A path that ends in a name gets a separator before further names. -/
theorem lead_below (directory : String) (some : sub ≠ []) (proper : ∀ name ∈ sub, IsName name) :
    lead (below directory sub) = below directory sub ++ "/" := by
  obtain ⟨before, split⟩ := splitAt_below directory some proper
  have last : (Text.splitAt '/' (below directory sub)).getLast? = sub.getLast? := by
    rw [split, List.getLast?_append_of_ne_nil _ some]
  -- After a separator at the end, or in an empty path, the last name would be empty.
  have named : (Text.splitAt '/' (below directory sub)).getLast? ≠ Option.some "" := by
    rw [last]
    exact fun empty => (proper "" (List.mem_of_getLast? empty)).1 rfl
  have written : below directory sub ≠ "" := by
    intro empty
    rw [empty] at named
    exact named rfl
  obtain ⟨base, leads, same | same⟩ := exists_lead written
  · rw [leads, same]
  · refine absurd ?_ named
    rw [same, ← String.append_empty (s := base ++ "/"), Text.splitAt_append, List.getLast?_append]
    rfl

/-- A path below a path below a directory is a path below the directory. -/
theorem below_below (directory : String) (some : sub ≠ []) (proper : ∀ name ∈ sub, IsName name)
    (rest : List String) : below (below directory sub) rest = below directory (sub ++ rest) := by
  by_cases last : rest = []
  · subst last
    rw [List.append_nil]
    rfl
  · rw [below_eq _ last, lead_below directory some proper, below_eq _ some,
      below_eq _ (List.append_ne_nil_of_right_ne_nil sub last), Text.join_append some last]
    simp only [String.append_assoc]

/-- A path leads below another, written from the same directory, exactly when its names go on
from the other's. -/
theorem startsWith_below (directory : String) (some : sub ≠ []) (proper : ∀ name ∈ sub, IsName name)
    (also : names ≠ []) (alsoProper : ∀ name ∈ names, IsName name) :
    Text.startsWith (below directory sub ++ "/") (below directory names) = true ↔
      ∃ rest, rest ≠ [] ∧ names = sub ++ rest := by
  rw [← startsWith_join some proper alsoProper, below_eq _ some, below_eq _ also]
  unfold Text.startsWith
  rw [String.append_assoc, List.isPrefixOf_iff_prefix, List.isPrefixOf_iff_prefix,
    String.toList_append (s := lead directory), String.toList_append (s := lead directory),
    List.prefix_append_right_inj]

end Path

end CodeAtlas
