import CodeAtlas.FileSystem
import CodeAtlas.Proofs.Text.Joined
import Mathlib.Data.List.Nodup

/-!
# Directories below a directory

In a well-named file system every directory holds its entries under names that are proper
and all different. The files listed below a directory that is reached through directories
only are then those listed below the outer one whose names begin with the way to it, and its
path leads where the names lead from the place that the outer path leads to.
-/

namespace CodeAtlas

open CodeAtlas.Path (IsName)

/-! ## Well-named entries -/

mutual

/-- Whether every directory at or below an entry holds what it holds under different proper
names. -/
def Entry.WellNamed : Entry → Prop
  | .file _ => True
  | .directory held =>
    (held.map Prod.fst).Nodup ∧ (∀ name ∈ held.map Prod.fst, IsName name) ∧ heldWellNamed held
  | .link _ => True

/-- Whether all entries of a list are well named. -/
def heldWellNamed : List (String × Entry) → Prop
  | [] => True
  | (_, entry) :: others => entry.WellNamed ∧ heldWellNamed others

end

mutual

/-- Decides whether an entry is well named. -/
def Entry.decideWellNamed : (entry : Entry) → Decidable entry.WellNamed
  | .file _ => isTrue trivial
  | .directory held =>
    have := decideHeldWellNamed held
    inferInstanceAs (Decidable (_ ∧ _ ∧ _))
  | .link _ => isTrue trivial

/-- Decides whether all entries of a list are well named. -/
def decideHeldWellNamed : (held : List (String × Entry)) → Decidable (heldWellNamed held)
  | [] => isTrue trivial
  | (_, entry) :: others =>
    have := entry.decideWellNamed
    have := decideHeldWellNamed others
    inferInstanceAs (Decidable (_ ∧ _))

end

/-- Whether an entry is well named is decidable. -/
instance (entry : Entry) : Decidable entry.WellNamed := entry.decideWellNamed

namespace Entry

/-- What stands in a well-named list is well named. -/
theorem wellNamed_of_mem {held : List (String × Entry)} (wellNamed : heldWellNamed held)
    {stored : String × Entry} (member : stored ∈ held) : stored.2.WellNamed := by
  induction held with
  | nil => cases member
  | cons first others ih =>
    obtain rfl | later := List.mem_cons.mp member
    · exact wellNamed.1
    · exact ih wellNamed.2 later

/-- What an entry holds under a name stands among what it holds. -/
theorem child?_eq_some {entry inner : Entry} {name : String}
    (found : entry.child? name = some inner) :
    ∃ held, entry = .directory held ∧ (name, inner) ∈ held := by
  obtain ⟨⟨stored, _⟩, located, rfl⟩ := Option.map_eq_some_iff.mp found
  have same : stored = name := by simpa using List.find?_some located
  subst same
  cases entry with
  | directory held => exact ⟨held, rfl, List.mem_of_find?_eq_some located⟩
  | file content => cases located
  | link target => cases located

variable {entry inner : Entry} {sub names rest : List String} {name : String}

/-- What a well-named entry holds is well named and has a proper name. -/
theorem WellNamed.child (wellNamed : entry.WellNamed) (found : entry.child? name = some inner) :
    IsName name ∧ inner.WellNamed := by
  obtain ⟨held, rfl, member⟩ := child?_eq_some found
  exact ⟨wellNamed.2.1 name (List.mem_map_of_mem member), wellNamed_of_mem wellNamed.2.2 member⟩

/-- What names lead to in a well-named entry is well named, and the names are proper. -/
theorem WellNamed.at? (wellNamed : entry.WellNamed) (found : entry.at? sub = some inner) :
    (∀ name ∈ sub, IsName name) ∧ inner.WellNamed := by
  induction sub generalizing entry with
  | nil =>
    cases found
    exact ⟨fun _ member => absurd member List.not_mem_nil, wellNamed⟩
  | cons name sub ih =>
    obtain ⟨child, here, there⟩ := Option.bind_eq_some_iff.mp found
    obtain ⟨proper, kept⟩ := wellNamed.child here
    obtain ⟨others, last⟩ := ih kept there
    exact ⟨List.forall_mem_cons.mpr ⟨proper, others⟩, last⟩

/-- Names lead on from where the names before them lead. -/
theorem at?_append (entry : Entry) (sub rest : List String) :
    entry.at? (sub ++ rest) = (entry.at? sub).bind fun inner => inner.at? rest := by
  induction sub generalizing entry with
  | nil => rfl
  | cons name sub ih =>
    simp only [List.cons_append, Entry.at?, ih, Option.bind_assoc]

/-! ## Listed files -/

mutual

/-- The names of listed files are proper. -/
theorem WellNamed.isName_of_mem_files {entry : Entry} (wellNamed : entry.WellNamed)
    {names : List String} (listed : names ∈ entry.files) : ∀ name ∈ names, IsName name := by
  match entry with
  | .file _ =>
    obtain rfl := List.mem_singleton.mp listed
    exact fun _ member => absurd member List.not_mem_nil
  | .directory held => exact isName_of_mem_filesHeld wellNamed.2.1 wellNamed.2.2 listed
  | .link _ => cases listed

/-- The names of files that are listed below entries with proper names are proper. -/
theorem isName_of_mem_filesHeld {held : List (String × Entry)}
    (proper : ∀ name ∈ held.map Prod.fst, IsName name) (wellNamed : heldWellNamed held)
    {names : List String} (listed : names ∈ filesHeld held) : ∀ name ∈ names, IsName name := by
  match held with
  | [] => cases listed
  | (name, entry) :: others =>
    rw [filesHeld, List.mem_append] at listed
    obtain here | later := listed
    · split at here
      · cases here
      · obtain ⟨inner, below, rfl⟩ := List.mem_map.mp here
        refine List.forall_mem_cons.mpr ⟨proper name List.mem_cons_self, ?_⟩
        exact wellNamed.1.isName_of_mem_files below
    · have others := fun name member => proper name (List.mem_cons_of_mem _ member)
      exact isName_of_mem_filesHeld others wellNamed.2 later

end

/-- Files listed below a directory are reached by at least one name. -/
theorem ne_nil_of_mem_filesHeld {held : List (String × Entry)} (listed : names ∈ filesHeld held) :
    names ≠ [] := by
  induction held with
  | nil => cases listed
  | cons first others ih =>
    rw [filesHeld, List.mem_append] at listed
    obtain here | later := listed
    · split at here
      · cases here
      · obtain ⟨_, _, rfl⟩ := List.mem_map.mp here
        exact List.cons_ne_nil _ _
    · exact ih later

/-- Of files under one name, those whose names begin with others. -/
theorem filter_map_cons (name stored : String) (sub : List String) (files : List (List String)) :
    (files.map (stored :: ·)).filter (name :: sub).isPrefixOf =
      if name = stored then (files.filter sub.isPrefixOf).map (stored :: ·) else [] := by
  rw [List.filter_map]
  split
  · rename_i same
    subst same
    congr 2
    funext names
    simp [List.isPrefixOf]
  · rename_i other
    simp [List.isPrefixOf, other]

/-- Nothing that is listed begins with a name that no entry has. -/
theorem filter_filesHeld_of_notMem {held : List (String × Entry)}
    (absent : name ∉ held.map Prod.fst) (sub : List String) :
    (filesHeld held).filter (name :: sub).isPrefixOf = [] := by
  induction held with
  | nil => rfl
  | cons first held ih =>
    obtain ⟨other, others⟩ := not_or.mp (mt List.mem_cons.mpr absent)
    rw [filesHeld, List.filter_append, ih others, List.append_nil]
    split
    · rfl
    · rw [filter_map_cons, if_neg other]

/-- The files listed below a directory whose names begin with that of an entry are those
listed below the entry. -/
theorem filter_filesHeld {held : List (String × Entry)} (distinct : (held.map Prod.fst).Nodup)
    (member : (name, inner) ∈ held) (visible : name ≠ ".git") (sub : List String) :
    (filesHeld held).filter (name :: sub).isPrefixOf =
      (inner.files.filter sub.isPrefixOf).map (name :: ·) := by
  induction held with
  | nil => cases member
  | cons first held ih =>
    obtain ⟨absent, distinct⟩ := List.nodup_cons.mp distinct
    rw [filesHeld, List.filter_append]
    obtain rfl | later := List.mem_cons.mp member
    · rw [if_neg visible, filter_map_cons, if_pos rfl, filter_filesHeld_of_notMem absent,
        List.append_nil]
    · have other : name ≠ first.1 := fun same => absent (same ▸ List.mem_map_of_mem later)
      rw [ih distinct later]
      split
      · rfl
      · rw [filter_map_cons, if_neg other, List.nil_append]

/-- The files listed below an entry whose names begin with the way to an inner entry are those
listed below the inner one. -/
theorem filter_files (wellNamed : entry.WellNamed) (found : entry.at? sub = some inner)
    (visible : ".git" ∉ sub) :
    entry.files.filter sub.isPrefixOf = inner.files.map (sub ++ ·) := by
  induction sub generalizing entry with
  | nil =>
    cases found
    simp [List.isPrefixOf]
  | cons name sub ih =>
    obtain ⟨child, here, there⟩ := Option.bind_eq_some_iff.mp found
    obtain ⟨other, others⟩ := not_or.mp (mt List.mem_cons.mpr visible)
    have kept := (wellNamed.child here).2
    obtain ⟨held, rfl, member⟩ := child?_eq_some here
    rw [files, filter_filesHeld wellNamed.1 member (Ne.symm other), ih kept there others,
      List.map_map]
    rfl

end Entry

/-! ## Resolved names -/

namespace FileSystem

variable {fs : FileSystem} {location place : Location} {names rest : List String}

/-- Names lead nowhere, whatever follows them, or what follows leads on from where they lead. -/
theorem resolveNames_append (fs : FileSystem) (links : Nat) (location : Location)
    (names : List String) :
    (∃ error, ∀ rest, fs.resolveNames .present links location (names ++ rest) = .error error) ∨
      ∃ left place, ∀ rest, fs.resolveNames .present links location (names ++ rest) =
        fs.resolveNames .present left place rest := by
  generalize present : Ending.present = ending
  fun_induction resolveNames fs ending links location names with
  | case1 links location => exact .inr ⟨links, location, fun _ => rfl⟩
  | case2 links location name names missing =>
    refine .inl ⟨.notDirectory, fun rest => ?_⟩
    rw [List.cons_append, resolveNames, if_pos missing]
  | case3 links location name names directory idle ih =>
    have onward (rest : List String) :
        fs.resolveNames ending links location (name :: names ++ rest) =
          fs.resolveNames ending links location (names ++ rest) := by
      rw [List.cons_append, resolveNames, if_neg directory, if_pos idle]
    simpa only [onward] using ih
  | case4 links location names directory proper ih =>
    have onward (rest : List String) :
        fs.resolveNames ending links location (".." :: names ++ rest) =
          fs.resolveNames ending links location.dropLast (names ++ rest) := by
      rw [List.cons_append, resolveNames, if_neg directory, if_neg proper, if_pos rfl]
    simpa only [onward] using ih
  | case5 links location name names directory proper inside long =>
    refine .inl ⟨.nameTooLong, fun rest => ?_⟩
    rw [List.cons_append, resolveNames, if_neg directory, if_neg proper, if_neg inside,
      if_pos long]
  | case6 links location name names directory proper inside short missing last =>
    cases present.trans last.2
  | case7 links location name names directory proper inside short missing last =>
    refine .inl ⟨.noEntry, fun rest => ?_⟩
    rw [List.cons_append, resolveNames, if_neg directory, if_neg proper, if_neg inside,
      if_neg short, missing]
    simp [← present]
  | case8 location name names directory proper inside short target linked =>
    refine .inl ⟨.tooManyLinks, fun rest => ?_⟩
    rw [List.cons_append, resolveNames, if_neg directory, if_neg proper, if_neg inside,
      if_neg short, linked]
  | case9 location name names directory proper inside short target linked links ih =>
    have onward (rest : List String) :
        fs.resolveNames ending (links + 1) location (name :: names ++ rest) =
          fs.resolveNames ending links (start target location)
            (Text.splitAt '/' target ++ names ++ rest) := by
      rw [List.cons_append, resolveNames, if_neg directory, if_neg proper, if_neg inside,
        if_neg short, linked, List.append_assoc]
    simpa only [onward] using ih
  | case10 links location name names directory proper inside short entry solid stands ih =>
    have onward (rest : List String) :
        fs.resolveNames ending links location (name :: names ++ rest) =
          fs.resolveNames ending links (location ++ [name]) (names ++ rest) := by
      rw [List.cons_append, resolveNames, if_neg directory, if_neg proper, if_neg inside,
        if_neg short, stands]
      cases entry with
      | link target => exact absurd rfl (solid target)
      | _ => rfl
    simpa only [onward] using ih

/-- A location is that of a directory when a directory stands there. -/
theorem isDirectoryAt_eq_true :
    fs.isDirectoryAt location = true ↔ ∃ held, fs.entry? location = some (.directory held) := by
  unfold isDirectoryAt
  cases fs.entry? location with
  | none => simp
  | some entry => cases entry <;> simp [Entry.isDirectory]

/-- On the way to a directory there are directories only. -/
theorem isDirectoryAt_of_append (directory : fs.isDirectoryAt (location ++ names) = true) :
    fs.isDirectoryAt location = true := by
  obtain ⟨held, found⟩ := isDirectoryAt_eq_true.mp directory
  rw [ entry?, Entry.at?_append] at found
  obtain ⟨entry, here, there⟩ := Option.bind_eq_some_iff.mp found
  refine isDirectoryAt_eq_true.mpr ?_
  cases names with
  | nil =>
    cases there
    exact ⟨held, here⟩
  | cons name names =>
    obtain ⟨child, found, -⟩ := Option.bind_eq_some_iff.mp there
    obtain ⟨around, rfl, -⟩ := Entry.child?_eq_some found
    exact ⟨around, here⟩

/-- Names that stand for directories lead from one to the next. -/
theorem resolveNames_directories {links : Nat} (proper : ∀ name ∈ names, IsName name)
    (directory : fs.isDirectoryAt (location ++ names) = true)
    (resolved : fs.resolveNames .present links location names = .ok place) :
    place = location ++ names := by
  induction names generalizing location with
  | nil =>
    rw [resolveNames] at resolved
    cases resolved
    exact (List.append_nil _).symm
  | cons name names ih =>
    obtain ⟨⟨named, dot, dots, -⟩, others⟩ := List.forall_mem_cons.mp proper
    rw [List.append_cons] at directory ⊢
    obtain ⟨held, stands⟩ := isDirectoryAt_eq_true.mp (isDirectoryAt_of_append directory)
    apply ih others directory
    rw [resolveNames] at resolved
    simp only [named, dot, dots, or_self, if_false, stands] at resolved
    split at resolved
    · cases resolved
    · split at resolved
      · cases resolved
      · exact resolved

/-- A path that can be looked up is not empty, and its names stand between its separators. -/
theorem namesOf_eq_ok {path : String} (read : namesOf path = .ok names) :
    path ≠ "" ∧ names = Text.splitAt '/' path := by
  unfold namesOf at read
  split at read
  · cases read
  · split at read
    · cases read
    · rename_i some
      split at read
      · cases read
      · cases read
        exact ⟨some, rfl⟩

/-- A path can be looked up when names can be taken from it that lead somewhere from where it
begins. -/
theorem resolve_eq_ok {path : String} (resolved : fs.resolve path = .ok place) :
    path ≠ "" ∧
      fs.below (start path fs.workingDirectory) (Text.splitAt '/' path) = .ok place := by
  unfold resolve at resolved
  cases read : namesOf path with
  | error error =>
    rw [read] at resolved
    cases resolved
  | ok names =>
    rw [read] at resolved
    obtain ⟨some, rfl⟩ := namesOf_eq_ok read
    exact ⟨some, resolved⟩

/-- Whether a path is absolute shows in its first character. -/
theorem start_append {path : String} (some : path ≠ "") (more : String) (directory : Location) :
    start (path ++ more) directory = start path directory := by
  obtain ⟨c, rest, written⟩ := List.exists_cons_of_ne_nil (mt String.toList_eq_nil_iff.mp some)
  simp [start, Text.startsWith, String.toList_append, written, List.isPrefixOf]

/-- An empty name, as it stands after a separator at the end of a path, leads nowhere else. -/
theorem resolveNames_empty {links : Nat}
    (resolved : fs.resolveNames .present links location [""] = .ok place) : location = place := by
  rw [resolveNames] at resolved
  split at resolved
  · cases resolved
  · rw [if_pos (.inl rfl), resolveNames] at resolved
    exact Except.ok.inj resolved

/-- A path with names added to it leads where the names lead from where the path leads, if
directories stand there on the way. -/
theorem resolve_below {root : String} {sub : List String}
    (resolved : fs.resolve root = .ok location)
    (some : sub ≠ []) (proper : ∀ name ∈ sub, IsName name)
    (directory : fs.isDirectoryAt (location ++ sub) = true)
    (usable : fs.isDirectory (Path.below root sub) = true) :
    fs.resolve (Path.below root sub) = .ok (location ++ sub) := by
  unfold isDirectory at usable
  split at usable
  · rename_i place found
    rw [found]
    obtain ⟨written, outer⟩ := resolve_eq_ok resolved
    obtain ⟨-, inner⟩ := resolve_eq_ok found
    obtain ⟨base, leads, same⟩ := Path.exists_lead written
    rw [Path.below_eq root some, leads] at inner
    have more : start (base ++ "/" ++ Text.join "/" sub) fs.workingDirectory =
        start root fs.workingDirectory := by
      obtain rfl | rfl := same
      · rw [String.append_assoc, start_append written]
      · rw [start_append written]
    rw [more, Text.splitAt_append, Path.splitAt_join some proper] at inner
    -- The names of the outer path are those of the base, and perhaps an empty one.
    obtain ⟨error, nowhere⟩ | ⟨left, middle, onward⟩ := resolveNames_append fs linkLimit
      (start root fs.workingDirectory) (Text.splitAt '/' base)
    · exact absurd (inner.symm.trans (nowhere sub)) nofun
    · have reached : middle = location := by
        obtain same | same := same
        · have whole := onward []
          rw [List.append_nil, ← same] at whole
          rw [below, whole, resolveNames] at outer
          exact Except.ok.inj outer
        · have split := Text.splitAt_append base ""
          rw [String.append_empty, ← same] at split
          rw [below, split] at outer
          exact resolveNames_empty ((onward _).symm.trans outer)
      subst reached
      exact congrArg Except.ok
        (resolveNames_directories proper directory ((onward sub).symm.trans inner))
  · cases usable

/-- The files listed below a directory that is reached through directories are those listed
below the outer one whose names begin with the way to it. -/
theorem filter_filesBelow {sub : List String} (wellNamed : fs.root.WellNamed)
    (directory : fs.isDirectoryAt (location ++ sub) = true) (visible : ".git" ∉ sub) :
    (fs.filesBelow location).filter sub.isPrefixOf =
      (fs.filesBelow (location ++ sub)).map (sub ++ ·) := by
  obtain ⟨outer, there⟩ := isDirectoryAt_eq_true.mp (isDirectoryAt_of_append directory)
  obtain ⟨inner, here⟩ := isDirectoryAt_eq_true.mp directory
  unfold filesBelow
  rw [there, here]
  rw [ entry?, Entry.at?_append, ← entry?, there, Option.bind_some] at here
  exact Entry.filter_files (wellNamed.at? there).2 here visible

end FileSystem

end CodeAtlas
