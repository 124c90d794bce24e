import CodeAtlas.Proofs.Text.Slices

/-!
# Lines and line feeds

A text is cut into lines at its line feeds, so that the line feeds before a place count the
lines before it. Joined by line feeds again, the lines give back a part of the text, in which
a carriage return before a line feed is lost.
-/

namespace CodeAtlas.Chars

/-- A text in which a carriage return and a line feed after it are read as a line feed. -/
def unifyEnds : List Char → List Char
  | [] => []
  | '\r' :: '\n' :: rest => '\n' :: unifyEnds rest
  | c :: rest => c :: unifyEnds rest

/-- Whether a text does not end with the end of a line or a part of it. -/
def EndsInLine (text : List Char) : Prop := ∀ c ∈ text.getLast?, c ≠ '\r' ∧ c ≠ '\n'

/-- What is read at the end of a text is read of the end alone. -/
theorem unifyEnds_suffix (before text : List Char) :
    unifyEnds text <:+ unifyEnds (before ++ text) := by
  induction before with
  | nil => exact List.suffix_refl _
  | cons c before ih =>
    refine ih.trans ?_
    rw [List.cons_append]
    generalize before ++ text = rest
    cases rest with
    | nil => exact List.nil_suffix
    | cons next rest =>
      by_cases pair : c = '\r' ∧ next = '\n'
      · obtain ⟨rfl, rfl⟩ := pair
        exact List.suffix_refl _
      · rw [unifyEnds.eq_3 c (next :: rest) (by simpa using pair)]
        exact List.suffix_cons _ _

/-! ## Counting lines -/

section

variable {c : Char} {rest : List Char}

/-- The rest of a text that ends in a line does so, too. -/
theorem EndsInLine.of_cons (inLine : EndsInLine (c :: rest)) : EndsInLine rest := by
  cases rest with
  | nil => exact nofun
  | cons next rest =>
    unfold EndsInLine at inLine ⊢
    rwa [List.getLast?_cons_cons] at inLine

/-- A text that ends in a line goes on after the end of another one. -/
theorem EndsInLine.ne_nil (inLine : EndsInLine (c :: rest)) (ends : c = '\r' ∨ c = '\n') :
    rest ≠ [] := by
  rintro rfl
  obtain ⟨noReturn, noFeed⟩ := inLine c rfl
  exact ends.elim noReturn noFeed

end

/-- The first line of some lines may grow at its front. -/
theorem join_cons_cons (separator line : List Char) (c : Char) (others : List (List Char)) :
    join separator ((c :: line) :: others) = c :: join separator (line :: others) := by
  cases others <;> rfl

/-- A character that is no part of a line end stands in front of the first line that follows. -/
theorem lines_cons {c : Char} {rest : List Char} (feed : c ≠ '\n')
    (alone : ∀ later, c = '\r' → rest = '\n' :: later → False) :
    lines (c :: rest) = (c :: (lines rest).headD []) :: (lines rest).tail := by
  rw [lines.eq_4 c rest feed alone]
  cases lines rest <;> rfl

/-- What stands in front of a text, without a line feed, goes in front of its first line. -/
theorem lines_append {line : List Char} (visible : line ≠ []) (single : '\n' ∉ line)
    (after : List Char) (alone : line.getLast? = some '\r' → after.head? ≠ some '\n') :
    lines (line ++ after) = (line ++ (lines after).headD []) :: (lines after).tail := by
  induction line with
  | nil => exact absurd rfl visible
  | cons c line ih =>
    obtain ⟨feed, rest⟩ := not_or.mp (mt List.mem_cons.mpr single)
    rw [List.cons_append, lines_cons (Ne.symm feed)]
    · by_cases last : line = []
      · subst last
        rfl
      · rw [ih last rest (by rwa [List.getLast?_cons_of_ne_nil last] at alone)]
        rfl
    · rintro later rfl next
      cases line with
      | nil => exact alone rfl (by rw [List.nil_append] at next; simp [next])
      | cons first others =>
        exact rest (by rw [← (List.cons.inj next).1]; exact List.mem_cons_self)

/-- What stands in front of a text of one line fills lines of its own, and the rest of it goes in
front of the text. -/
theorem exists_lines_append (lead : List Char) {text : List Char} (visible : text ≠ [])
    (single : '\n' ∉ text) :
    ∃ others last, lines (lead ++ text) = others ++ [last ++ text] ∧
      (∀ line ∈ last :: others, line ⊆ lead) ∧ (others = [] → last = lead) := by
  induction lead with
  | nil =>
    have cut := lines_append visible single [] fun _ => nofun
    rw [List.append_nil] at cut
    exact ⟨[], [], cut.trans (by simp [lines]), by simp, fun _ => rfl⟩
  | cons c lead ih =>
    obtain ⟨others, last, cut, inside, whole⟩ := ih
    have grown : ∀ line ∈ last :: others, line ⊆ c :: lead :=
      fun line listed => List.subset_cons_of_subset c (inside line listed)
    by_cases feed : c = '\n'
    · subst feed
      refine ⟨[] :: others, last, congrArg ([] :: ·) cut, ?_, nofun⟩
      simpa using grown
    by_cases pair : ∃ later, c = '\r' ∧ lead ++ text = '\n' :: later
    · -- The carriage return ends the same line as the line feed after it.
      obtain ⟨later, rfl, next⟩ := pair
      rw [List.cons_append, next]
      rw [next] at cut
      refine ⟨others, last, cut, grown, ?_⟩
      rintro rfl
      have first := (List.cons.inj cut).1
      exact absurd first.symm (List.append_ne_nil_of_right_ne_nil _ visible)
    · rw [List.cons_append, lines_cons feed fun later carriage next => pair ⟨later, carriage, next⟩,
        cut]
      have longer {line : List Char} (part : line ⊆ lead) : c :: line ⊆ c :: lead :=
        List.cons_subset_cons c part
      cases others with
      | nil => exact ⟨[], c :: last, rfl, by simpa using longer (inside last (by simp)),
          fun _ => congrArg (c :: ·) (whole rfl)⟩
      | cons first others =>
        refine ⟨(c :: first) :: others, last, rfl, ?_, nofun⟩
        have start := longer (inside first (by simp))
        simp only [List.forall_mem_cons] at grown ⊢
        exact ⟨grown.1, start, grown.2.2⟩

/-- The lines of a text begin with those that a part of it stands in, one more than the part
has line feeds. Joined, these read as the part and what completes its last line. -/
structure Shows (text after : List Char) (shown others : List (List Char)) : Prop where
  lines : lines (text ++ after) = shown ++ others
  length : shown.length = text.count '\n' + 1
  reads : unifyEnds text <+: join ['\n'] shown

section

variable {text after line : List Char} {shown more others : List (List Char)} {c : Char}

/-- Some line is shown. -/
theorem Shows.exists_cons (shows : Shows text after shown others) :
    ∃ line more, shown = line :: more := by
  apply List.exists_cons_of_length_pos
  rw [shows.length]
  omega

/-- In front of a part, a line feed ends a line. -/
theorem Shows.feed (shows : Shows text after shown others) :
    Shows ('\n' :: text) after ([] :: shown) others where
  lines := congrArg ([] :: ·) shows.lines
  length := by rw [List.count_cons_self, List.length_cons, shows.length]
  reads := by
    obtain ⟨line, more, rfl⟩ := shows.exists_cons
    change '\n' :: unifyEnds text <+: '\n' :: join ['\n'] (line :: more)
    exact List.cons_prefix_cons.mpr ⟨rfl, shows.reads⟩

/-- In front of a part, a carriage return and a line feed end a line. -/
theorem Shows.pair (shows : Shows text after shown others) :
    Shows ('\r' :: '\n' :: text) after ([] :: shown) others where
  lines := shows.feed.lines
  length := by
    rw [List.count_cons_of_ne (by decide)]
    exact shows.feed.length
  reads := shows.feed.reads

/-- In front of a part, any other character begins its first line. -/
theorem Shows.cons (shows : Shows text after (line :: more) others) (feed : c ≠ '\n')
    (alone : ∀ later, c = '\r' → text ++ after = '\n' :: later → False) :
    Shows (c :: text) after ((c :: line) :: more) others where
  lines := by
    rw [List.cons_append, lines_cons feed alone, shows.lines]
    rfl
  length := by
    rw [List.count_cons_of_ne feed]
    exact shows.length
  reads := by
    have single : ∀ later, c = '\r' → text = '\n' :: later → False := by
      rintro later carriage rfl
      exact alone (later ++ after) carriage rfl
    rw [unifyEnds.eq_3 c text single, join_cons_cons]
    exact List.cons_prefix_cons.mpr ⟨rfl, shows.reads⟩

/-- A last character that ends no line is shown by the line that it begins. -/
theorem shows_singleton (feed : c ≠ '\n') (carriage : c ≠ '\r') (after : List Char) :
    Shows [c] after [c :: (lines after).headD []] (lines after).tail where
  lines := lines_cons feed fun _ same => absurd same carriage
  length := by rw [List.count_cons_of_ne feed, List.count_nil, List.length_singleton]
  reads := by
    rw [unifyEnds.eq_3 c [] fun _ same => absurd same carriage]
    exact List.prefix_append [c] _

end

/-- A part of a text that ends in a line is shown by the first lines of the text. -/
theorem exists_shows {text : List Char} (visible : text ≠ []) (inLine : EndsInLine text)
    (after : List Char) : ∃ shown others, Shows text after shown others := by
  fun_induction unifyEnds text with
  | case1 => exact absurd rfl visible
  | case2 rest ih =>
    have more : rest ≠ [] := inLine.of_cons.ne_nil (.inr rfl)
    obtain ⟨shown, others, shows⟩ := ih more inLine.of_cons.of_cons
    exact ⟨_, others, shows.pair⟩
  | case3 c rest alone ih =>
    by_cases feed : c = '\n'
    · subst feed
      obtain ⟨shown, others, shows⟩ := ih (inLine.ne_nil (.inr rfl)) inLine.of_cons
      exact ⟨_, others, shows.feed⟩
    · cases rest with
      | nil => exact ⟨_, _, shows_singleton feed (inLine c rfl).1 after⟩
      | cons next rest =>
        obtain ⟨shown, others, shows⟩ := ih (List.cons_ne_nil next rest) inLine.of_cons
        obtain ⟨line, more, rfl⟩ := shows.exists_cons
        refine ⟨_, others, shows.cons feed ?_⟩
        intro later carriage same
        exact alone rest carriage (congrArg (· :: rest) (List.cons.inj same).1)

/-! ## Skipping lines -/

/-- A character that ends no line adds nothing to the later lines. -/
theorem drop_lines_cons {c : Char} (feed : c ≠ '\n') (text : List Char) (skipped : Nat) :
    (lines (c :: text)).drop (skipped + 1) = (lines text).drop (skipped + 1) := by
  by_cases pair : c = '\r' ∧ ∃ rest, text = '\n' :: rest
  · obtain ⟨rfl, rest, rfl⟩ := pair
    rfl
  · rw [lines_cons feed fun rest carriage next => pair ⟨carriage, rest, next⟩,
      List.drop_succ_cons, List.drop_tail]

/-- Without as many lines as a part of a text has line feeds, the lines are those of what
follows the last of these line feeds. -/
theorem exists_drop_lines (before after : List Char) :
    ∃ last, '\n' ∉ last ∧
      (lines (before ++ after)).drop (before.count '\n') = lines (last ++ after) := by
  induction before with
  | nil => exact ⟨[], List.not_mem_nil, rfl⟩
  | cons c before ih =>
    obtain ⟨last, single, dropped⟩ := ih
    by_cases feed : c = '\n'
    · subst feed
      refine ⟨last, single, ?_⟩
      rw [List.count_cons_self]
      exact dropped
    · rw [List.count_cons_of_ne feed]
      cases skipped : before.count '\n' with
      | zero =>
        have none : '\n' ∉ before := List.count_eq_zero.mp skipped
        exact ⟨c :: before, by simp [none, Ne.symm feed], rfl⟩
      | succ skipped =>
        refine ⟨last, single, ?_⟩
        rw [List.cons_append, drop_lines_cons feed, ← skipped]
        exact dropped

/-- The lines that a part of a text stands in, from the line it begins in to the line it ends
in, hold the part. -/
theorem infix_join_lines {code : List Char} (visible : code ≠ []) (inLine : EndsInLine code)
    (before after : List Char) :
    let cut := lines (before ++ code ++ after)
    (before ++ code).count '\n' < cut.length ∧
      unifyEnds code <:+: join ['\n']
        ((cut.take ((before ++ code).count '\n' + 1)).drop (before.count '\n')) := by
  intro cut
  obtain ⟨last, single, dropped⟩ := exists_drop_lines before (code ++ after)
  -- What stands in front of the part in its first line has no line feed.
  have count : (last ++ code).count '\n' = code.count '\n' := by
    rw [List.count_append, List.count_eq_zero.mpr single, Nat.zero_add]
  have ends : EndsInLine (last ++ code) := by
    unfold EndsInLine
    rwa [List.getLast?_append_of_ne_nil _ visible]
  have some : last ++ code ≠ [] := List.append_ne_nil_of_right_ne_nil last visible
  obtain ⟨shown, others, shows⟩ := exists_shows some ends after
  have rest : cut.drop (before.count '\n') = shown ++ others := by
    rw [← shows.lines, List.append_assoc last, ← dropped, ← List.append_assoc before]
  have total : shown.length = code.count '\n' + 1 := by rw [shows.length, count]
  constructor
  · have remaining := congrArg List.length rest
    rw [List.length_drop, List.length_append, total] at remaining
    rw [List.count_append]
    omega
  · rw [List.drop_take, rest, List.count_append, Nat.add_assoc, Nat.add_sub_cancel_left, ← total,
      List.take_left]
    exact (unifyEnds_suffix last code).isInfix.trans shows.reads.isInfix

/-! ## Rows and bytes -/

/-- A later offset stands on no earlier row. -/
theorem row_mono (text : List Char) {first last : Nat} (ordered : first ≤ last) :
    row first text ≤ row last text := by
  induction text generalizing first last with
  | nil => cases first <;> cases last <;> exact Nat.le_refl _
  | cons c text ih =>
    cases first with
    | zero => exact Nat.zero_le _
    | succ first =>
      cases last with
      | zero => omega
      | succ last =>
        rw [row, row]
        exact Nat.add_le_add_left (ih (by omega)) _

/-- A byte of a text is one of a character, and the row after it is that after the
character. -/
theorem exists_char_at {offset : Nat} {text : List Char} (inside : offset < byteSize text) :
    ∃ before c after, text = before ++ c :: after ∧ byteSize before ≤ offset ∧
      offset < byteSize (before ++ [c]) ∧
      row (offset + 1) text = (before ++ [c]).count '\n' := by
  induction text generalizing offset with
  | nil => exact absurd inside (Nat.not_lt_zero _)
  | cons c text ih =>
    rw [byteSize_cons] at inside
    by_cases here : offset < c.utf8Size
    · refine ⟨[], c, text, rfl, Nat.zero_le _, here, ?_⟩
      rw [row, Nat.sub_eq_zero_of_le here, row, List.nil_append, List.count_singleton]
      simp
    · have later : offset - c.utf8Size < byteSize text := by omega
      obtain ⟨before, last, after, rfl, starts, ends, counted⟩ := ih later
      refine ⟨c :: before, last, after, rfl, ?_, ?_, ?_⟩
      · rw [byteSize_cons]
        omega
      · rw [List.cons_append, byteSize_cons]
        omega
      · have shifted : offset + 1 - c.utf8Size = offset - c.utf8Size + 1 := by omega
        rw [row, shifted, counted, List.cons_append, List.count_cons, Nat.add_comm]
        simp only [beq_iff_eq]

/-- A text has as many bytes as its size says. -/
theorem length_flatMap_utf8EncodeChar (text : List Char) :
    (text.flatMap String.utf8EncodeChar).length = byteSize text := by
  induction text with
  | nil => rfl
  | cons c text ih =>
    rw [List.flatMap_cons, List.length_append, ih, String.length_utf8EncodeChar, byteSize_cons]

/-- A character of one byte is found where the size of what precedes it says. -/
theorem getElem?_flatMap_utf8EncodeChar {c : Char} {byte : UInt8}
    (single : String.utf8EncodeChar c = [byte]) (before after : List Char) :
    ((before ++ c :: after).flatMap String.utf8EncodeChar)[byteSize before]? = some byte := by
  rw [List.flatMap_append, List.flatMap_cons, single, ← length_flatMap_utf8EncodeChar,
    List.getElem?_append_right (Nat.le_refl _), Nat.sub_self]
  rfl

end CodeAtlas.Chars
