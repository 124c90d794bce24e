import CodeAtlas.Walk

/-!
# Globs that cannot be used

A filter is made of two sets of globs. A set is refused for its first glob that cannot be
read, and when all of them can, for an expression that is nested too deep. Whether a set is
refused can be told glob by glob; which error it is refused with cannot, since all globs are
read before any expression is judged, and those with an expression of their own come first.
-/

namespace CodeAtlas

/-! ## Reading one after the other -/

section Reading

variable {α β ε : Type} {read : α → Except ε β}

/-- Reading all of a list succeeds with good values when reading each of them does. -/
theorem exists_mapM_eq_ok (items : List α) (good : β → Prop) :
    (∃ values, items.mapM read = .ok values ∧ ∀ value ∈ values, good value) ↔
      ∀ item ∈ items, ∃ value, read item = .ok value ∧ good value := by
  induction items with
  | nil => exact ⟨fun _ _ member => absurd member List.not_mem_nil,
      fun _ => ⟨[], rfl, fun _ member => absurd member List.not_mem_nil⟩⟩
  | cons item items ih =>
    rw [List.forall_mem_cons, ← ih, List.mapM_cons]
    cases read item with
    | error error =>
      exact ⟨fun ⟨_, done, _⟩ => (nomatch done), fun ⟨⟨_, done, _⟩, _⟩ => (nomatch done)⟩
    | ok first =>
      cases items.mapM read with
      | error error =>
        exact ⟨fun ⟨_, done, _⟩ => (nomatch done), fun ⟨_, _, done, _⟩ => (nomatch done)⟩
      | ok others =>
        constructor
        · rintro ⟨_, ⟨⟩, all⟩
          obtain ⟨here, later⟩ := List.forall_mem_cons.mp all
          exact ⟨⟨first, rfl, here⟩, others, rfl, later⟩
        · rintro ⟨⟨_, ⟨⟩, here⟩, _, ⟨⟩, later⟩
          exact ⟨first :: others, rfl, List.forall_mem_cons.mpr ⟨here, later⟩⟩

/-- Reading all of a list fails with the error of the first item that cannot be read. -/
theorem mapM_eq_error {items : List α} {error : ε} :
    items.mapM read = .error error ↔ ∃ before item after, items = before ++ item :: after ∧
      (∀ earlier ∈ before, ∃ value, read earlier = .ok value) ∧ read item = .error error := by
  induction items with
  | nil =>
    refine ⟨fun failed => (nomatch failed), ?_⟩
    rintro ⟨before, item, after, split, _⟩
    simp at split
  | cons item items ih =>
    rw [List.mapM_cons]
    cases first : read item with
    | error fault =>
      change Except.error fault = Except.error error ↔ _
      constructor
      · rintro ⟨⟩
        exact ⟨[], item, items, rfl, fun _ member => absurd member List.not_mem_nil, first⟩
      · rintro ⟨before, found, after, split, readable, failed⟩
        cases before with
        | nil =>
          cases split
          cases first.symm.trans failed
          rfl
        | cons earlier before =>
          cases split
          obtain ⟨_, done⟩ := readable item List.mem_cons_self
          rw [first] at done
          cases done
    | ok value =>
      have rest : (items.mapM read >>= fun values => pure (value :: values)) = .error error ↔
          items.mapM read = .error error := by
        cases items.mapM read <;> simp [bind, Except.bind, pure, Except.pure]
      change (items.mapM read >>= fun values => pure (value :: values)) = .error error ↔ _
      rw [rest, ih]
      constructor
      · rintro ⟨before, found, after, rfl, readable, failed⟩
        exact ⟨item :: before, found, after, rfl,
          List.forall_mem_cons.mpr ⟨⟨value, first⟩, readable⟩, failed⟩
      · rintro ⟨before, found, after, split, readable, failed⟩
        cases before with
        | nil =>
          cases split
          rw [first] at failed
          cases failed
        | cons earlier before =>
          cases split
          exact ⟨before, found, after, rfl, (List.forall_mem_cons.mp readable).2, failed⟩

end Reading

namespace Glob

/-- Expressions are judged glob by glob: a set of globs is accepted when every glob that is
not tried by comparing text has an expression that is not nested too deep. -/
theorem checkSet_eq_ok (globs : List Glob) :
    checkSet globs = .ok () ↔
      ∀ glob ∈ globs, glob.trial ≠ .comparison → glob.isTooDeep false = false := by
  have own : ((globs.filter fun glob => glob.trial = .guarded).find? (isTooDeep false)) = none ↔
      ∀ glob ∈ globs, glob.trial = .guarded → glob.isTooDeep false = false := by
    simp
  have common : ((globs.filter fun glob => glob.trial = .shared).findIdx? (isTooDeep false)) =
      none ↔ ∀ glob ∈ globs, glob.trial = .shared → glob.isTooDeep false = false := by
    simp
  have parts : (∀ glob ∈ globs, glob.trial ≠ .comparison → glob.isTooDeep false = false) ↔
      (∀ glob ∈ globs, glob.trial = .guarded → glob.isTooDeep false = false) ∧
        ∀ glob ∈ globs, glob.trial = .shared → glob.isTooDeep false = false := by
    constructor
    · exact fun all => ⟨fun glob member own => all glob member (by simp [own]),
        fun glob member common => all glob member (by simp [common])⟩
    · rintro ⟨own, common⟩ glob member tried
      cases trial : glob.trial with
      | comparison => exact absurd trial tried
      | guarded => exact own glob member trial
      | shared => exact common glob member trial
  unfold checkSet
  rw [parts, ← own, ← common]
  simp only
  split <;> simp_all

end Glob

namespace PathFilter

/-- A glob that can be used alone. -/
def Usable (text : String) : Prop := ∃ globs, readSet [text] = .ok globs

/-- Why a set of globs is refused. -/
inductive SetFault (texts : List String) : Glob.Error → Prop where
  /-- A glob cannot be read, and all before it can. -/
  | unreadable {before after : List String} {text : String} {error : Glob.Error}
    (split : texts = before ++ text :: after)
    (readable : ∀ earlier ∈ before, ∃ glob, Glob.parse earlier = .ok glob)
    (failed : Glob.parse text = .error error) : SetFault texts error
  /-- All globs can be read, and one of their expressions is nested too deep. -/
  | tooDeep {globs : List Glob} {error : Glob.Error} (read : texts.mapM Glob.parse = .ok globs)
    (refused : Glob.checkSet globs = .error error) : SetFault texts error

/-- Why the globs of a query are refused: the includes are judged first. -/
inductive QueryFault (query : Query) : Glob.Error → Prop where
  | includes {error : Glob.Error} (fault : SetFault query.includes error) : QueryFault query error
  | excludes {error : Glob.Error} (usable : ∀ text ∈ query.includes, Usable text)
    (fault : SetFault query.excludes error) : QueryFault query error

/-- A set is accepted when all its globs can be read and their expressions are accepted. -/
theorem readSet_eq_ok {texts : List String} {globs : List Glob} :
    readSet texts = .ok globs ↔
      texts.mapM Glob.parse = .ok globs ∧ Glob.checkSet globs = .ok () := by
  unfold readSet
  cases texts.mapM Glob.parse with
  | error error => exact ⟨fun done => (nomatch done), fun ⟨done, _⟩ => (nomatch done)⟩
  | ok read =>
    change (Glob.checkSet read >>= fun _ => pure read) = .ok globs ↔ _
    cases checked : Glob.checkSet read with
    | error error =>
      refine ⟨fun done => (nomatch done), ?_⟩
      rintro ⟨⟨⟩, done⟩
      rw [checked] at done
      cases done
    | ok _ =>
      constructor
      · rintro ⟨⟩
        exact ⟨rfl, checked⟩
      · rintro ⟨⟨⟩, _⟩
        rfl

/-- A set is refused for its first glob that cannot be read, or else for an expression. -/
theorem readSet_eq_error {texts : List String} {error : Glob.Error} :
    readSet texts = .error error ↔ SetFault texts error := by
  unfold readSet
  cases read : texts.mapM Glob.parse with
  | error fault =>
    constructor
    · rintro ⟨⟩
      obtain ⟨before, text, after, split, readable, failed⟩ := mapM_eq_error.mp read
      exact .unreadable split readable failed
    · intro refused
      cases refused with
      | unreadable split readable failed =>
        cases read.symm.trans (mapM_eq_error.mpr ⟨_, _, _, split, readable, failed⟩)
        rfl
      | tooDeep done _ => cases read.symm.trans done
  | ok globs =>
    change (Glob.checkSet globs >>= fun _ => pure globs) = .error error ↔ _
    constructor
    · intro failed
      cases checked : Glob.checkSet globs with
      | error fault =>
        rw [checked] at failed
        cases failed
        exact .tooDeep read checked
      | ok _ =>
        rw [checked] at failed
        cases failed
    · intro refused
      cases refused with
      | unreadable split readable failed =>
        cases read.symm.trans (mapM_eq_error.mpr ⟨_, _, _, split, readable, failed⟩)
      | tooDeep done checked =>
        cases read.symm.trans done
        rw [checked]
        rfl

/-- A set is accepted exactly when each of its globs can be used alone. -/
theorem exists_readSet_eq_ok (texts : List String) :
    (∃ globs, readSet texts = .ok globs) ↔ ∀ text ∈ texts, Usable text := by
  have each (texts : List String) : (∃ globs, readSet texts = .ok globs) ↔
      ∀ text ∈ texts, ∃ glob, Glob.parse text = .ok glob ∧
        (glob.trial ≠ .comparison → glob.isTooDeep false = false) := by
    simp only [readSet_eq_ok, Glob.checkSet_eq_ok]
    exact exists_mapM_eq_ok texts _
  rw [each]
  unfold Usable
  simp only [each, List.mem_singleton, forall_eq]

/-- A set is refused exactly when one of its globs cannot be used alone. -/
theorem exists_setFault (texts : List String) :
    (∃ error, SetFault texts error) ↔ ∃ text ∈ texts, ¬Usable text := by
  have accepted := exists_readSet_eq_ok texts
  have refused : (∃ error, SetFault texts error) ↔ ¬∃ globs, readSet texts = .ok globs := by
    simp only [← readSet_eq_error]
    cases readSet texts <;> simp
  rw [refused, accepted]
  simp

/-- A filter is refused for its includes, or else for its excludes. -/
theorem ofQuery_eq_error {query : Query} {error : SearchError} :
    ofQuery query = .error error ↔
      ∃ fault, QueryFault query fault ∧ error = .invalidGlob fault := by
  have usable := exists_readSet_eq_ok query.includes
  unfold ofQuery
  cases includes : readSet query.includes with
  | error fault =>
    rw [includes] at usable
    constructor
    · rintro ⟨⟩
      exact ⟨fault, .includes (readSet_eq_error.mp includes), rfl⟩
    · rintro ⟨other, refused, rfl⟩
      cases refused with
      | includes refused =>
        cases includes.symm.trans (readSet_eq_error.mpr refused)
        rfl
      | excludes all _ =>
        obtain ⟨_, done⟩ := usable.mpr all
        cases done
  | ok globs =>
    have all := usable.mp ⟨globs, includes⟩
    cases excludes : readSet query.excludes with
    | error fault =>
      constructor
      · rintro ⟨⟩
        exact ⟨fault, .excludes all (readSet_eq_error.mp excludes), rfl⟩
      · rintro ⟨other, refused, rfl⟩
        cases refused with
        | includes refused => cases includes.symm.trans (readSet_eq_error.mpr refused)
        | excludes _ refused =>
          cases excludes.symm.trans (readSet_eq_error.mpr refused)
          rfl
    | ok others =>
      refine ⟨fun failed => (nomatch failed), ?_⟩
      rintro ⟨other, refused, rfl⟩
      cases refused with
      | includes refused => cases includes.symm.trans (readSet_eq_error.mpr refused)
      | excludes _ refused => cases excludes.symm.trans (readSet_eq_error.mpr refused)

/-- The globs of a query are refused exactly when one of them cannot be used alone. -/
theorem exists_queryFault (query : Query) :
    (∃ fault, QueryFault query fault) ↔
      ∃ text ∈ query.includes ++ query.excludes, ¬Usable text := by
  constructor
  · rintro ⟨error, refused⟩
    cases refused with
    | includes refused =>
      obtain ⟨text, member, bad⟩ := (exists_setFault query.includes).mp ⟨error, refused⟩
      exact ⟨text, List.mem_append_left _ member, bad⟩
    | excludes _ refused =>
      obtain ⟨text, member, bad⟩ := (exists_setFault query.excludes).mp ⟨error, refused⟩
      exact ⟨text, List.mem_append_right _ member, bad⟩
  · rintro ⟨text, member, bad⟩
    by_cases all : ∀ text ∈ query.includes, Usable text
    · have excluded : text ∈ query.excludes :=
        (List.mem_append.mp member).resolve_left fun included => bad (all text included)
      obtain ⟨error, refused⟩ := (exists_setFault query.excludes).mpr ⟨text, excluded, bad⟩
      exact ⟨error, .excludes all refused⟩
    · have included : ∃ text ∈ query.includes, ¬Usable text := by simpa using all
      obtain ⟨error, refused⟩ := (exists_setFault query.includes).mpr included
      exact ⟨error, .includes refused⟩

end PathFilter

/-! ## Braces nested too deep -/

namespace Glob

/-- A letter inside nested groups. -/
def nestedToken : Nat → Token
  | 0 => .literal 'a'
  | depth + 1 => .alternates [[nestedToken depth]]

/-- A letter inside nested braces, and some characters after it. -/
def nestedChars (depth : Nat) (final : List Char) : List Char :=
  List.replicate depth '\x7b' ++ 'a' :: (List.replicate depth '\x7d' ++ final)

/-- Nested braces are read as nested groups. -/
theorem scan_nested (bracket : Bracket) (depth : Nat) (before : Option Char)
    (branch : List Token) (groups : List OpenGroup) (final : List Char) :
    ∃ last, scan bracket none before branch groups (nestedChars depth final) =
      scan bracket none last (nestedToken depth :: branch) groups final := by
  induction depth generalizing before branch groups final with
  | zero => exact ⟨some 'a', rfl⟩
  | succ depth ih =>
    have chars : nestedChars (depth + 1) final = '\x7b' :: nestedChars depth ('\x7d' :: final) := by
      simp only [nestedChars, List.replicate_succ, List.cons_append, List.cons.injEq, true_and]
      rw [← List.cons_append, ← List.replicate_succ, List.replicate_succ', List.append_assoc]
      rfl
    obtain ⟨last, inner⟩ := ih (some '\x7b') [] (⟨[], branch⟩ :: groups) ('\x7d' :: final)
    rw [chars]
    refine ⟨some '\x7d', ?_⟩
    change scan bracket none (some '\x7b') [] (⟨[], branch⟩ :: groups) _ = _
    rw [inner]
    rfl

/-- Every group adds one to the depth. -/
theorem depths_nestedToken (depth : Nat) : (nestedToken depth).depths false = [depth] := by
  induction depth with
  | zero => rfl
  | succ depth ih =>
    simp [nestedToken, Token.depths, branchDepths, sequenceDepths, ih, joinedDepth]

/-- The glob of a letter inside nested braces, and some letters after it. -/
def nestedGlob (depth : Nat) (final : List Char) : Glob :=
  ⟨String.ofList (nestedChars depth final), nestedToken depth :: final.map .literal⟩

/-- Such a glob is read from its text, when the letters after it stand for themselves. -/
theorem parse_nestedGlob {depth : Nat} {final : List Char}
    (plain : ∀ last, scan .strict none last [nestedToken depth] [] final =
      .ok (nestedToken depth :: final.map .literal)) :
    parse (nestedGlob depth final).text = .ok (nestedGlob depth final) := by
  obtain ⟨last, scanned⟩ := scan_nested .strict depth none [] [] final
  unfold nestedGlob parse parseWith
  rw [String.toList_ofList, scanned, plain last]

/-- Braces that are nested as deep as expressions may be are too deep. -/
theorem isTooDeep_nestedGlob {depth : Nat} (deep : maxDepth ≤ depth) (final : List Char) :
    (nestedGlob depth final).isTooDeep false = true := by
  have most (depths : List Nat) (least : Nat) : least ≤ depths.foldl max least := by
    induction depths generalizing least with
    | nil => exact Nat.le_refl least
    | cons depth depths ih => exact Nat.le_trans (Nat.le_max_left least depth) (ih _)
  have bound := most (sequenceDepths false (final.map .literal)) (max 0 depth)
  simp only [isTooDeep, Glob.depth, nestedGlob, sequenceDepths, depths_nestedToken,
    List.singleton_append, List.foldl_cons, decide_eq_true_eq]
  omega

end Glob

namespace PathFilter

open Glob

/-- A glob of braces that are nested too deep is refused by its place. -/
theorem readSet_nested {depth : Nat} (deep : maxDepth ≤ depth + 1) :
    readSet [(nestedGlob (depth + 1) []).text] = .error ⟨none, .unreadableExpression 0⟩ := by
  have read : [(nestedGlob (depth + 1) []).text].mapM Glob.parse =
      .ok [nestedGlob (depth + 1) []] := by
    rw [List.mapM_cons, parse_nestedGlob fun _ => rfl]
    rfl
  have common : (nestedGlob (depth + 1) []).trial = .shared := rfl
  rw [readSet_eq_error]
  apply SetFault.tooDeep read
  simp [checkSet, common, isTooDeep_nestedGlob deep]

/-- With a file extension after it, such a glob is refused by the text of its expression,
and that before an earlier one without. -/
theorem readSet_nested_second {depth : Nat} (deep : maxDepth ≤ depth + 1) :
    readSet [(nestedGlob (depth + 1) []).text, (nestedGlob (depth + 1) ['.', 'p', 'y']).text] =
      .error ⟨some ((nestedGlob (depth + 1) ['.', 'p', 'y']).expression false),
        .unreadableExpression 0⟩ := by
  have read : [(nestedGlob (depth + 1) []).text,
      (nestedGlob (depth + 1) ['.', 'p', 'y']).text].mapM Glob.parse =
        .ok [nestedGlob (depth + 1) [], nestedGlob (depth + 1) ['.', 'p', 'y']] := by
    rw [List.mapM_cons, List.mapM_cons, parse_nestedGlob fun _ => rfl,
      parse_nestedGlob fun _ => rfl]
    rfl
  have common : (nestedGlob (depth + 1) []).trial = .shared := rfl
  have own : (nestedGlob (depth + 1) ['.', 'p', 'y']).trial = .guarded := rfl
  rw [readSet_eq_error]
  apply SetFault.tooDeep read
  simp [checkSet, common, own, isTooDeep_nestedGlob deep]

end PathFilter

end CodeAtlas
