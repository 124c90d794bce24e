import CodeAtlas.Proofs.Caches.Sound

/-!
# Work on caches with the right patterns

The patterns in the caches are compiled call patterns, whatever the trees are: this needs
nothing about digests, since no other pattern is ever compiled. Work ensures something of
its outcome when it holds from all such caches, and the caches are left such. The rules
follow the way work is put together. A failure is described apart from a value, so that what
can go wrong is carried along until something answers it.
-/

namespace CodeAtlas

namespace Caches

/-- Every pattern is the compiled call pattern of its language. -/
def PatternsSound (analyzer : Analyzer) (caches : Caches) : Prop :=
  ∀ entry ∈ caches.patterns.entries, analyzer.callPattern entry.1.1 = .ok entry.2

/-- New caches have no wrong pattern. -/
theorem fresh_patternsSound (analyzer : Analyzer) (capacity : Nat) :
    (fresh capacity).PatternsSound analyzer :=
  fun _ present => absurd present List.not_mem_nil

/-- The patterns stay right when the compiled call pattern of a language is added. -/
theorem PatternsSound.addPattern {analyzer : Analyzer} {caches : Caches}
    (right : caches.PatternsSound analyzer) {language : Language} (key : String)
    {pattern : CompiledPattern} (compiled : analyzer.callPattern language = .ok pattern) :
    { caches with patterns := caches.patterns.insert (language, key) pattern }.PatternsSound
      analyzer := by
  intro entry present
  rcases List.mem_append.mp present with earlier | added
  · exact right entry earlier
  · obtain rfl := List.mem_singleton.mp added
    exact compiled

/-- From caches with the right patterns, the outcome of work is as described, and the
patterns it leaves are right. -/
def Ensures (analyzer : Analyzer) {α : Type} (work : StateM Caches α) (post : α → Prop) : Prop :=
  ∀ caches, caches.PatternsSound analyzer →
    post (work.run caches).1 ∧ (work.run caches).2.PatternsSound analyzer

/-- What is said of an outcome by what is said of a failure and of a value. -/
def Outcome {ε α : Type} (fails : ε → Prop) (holds : α → Prop) : Except ε α → Prop
  | .error error => fails error
  | .ok value => holds value

variable {analyzer : Analyzer} {α β ε : Type}

/-- A value is its own outcome. -/
theorem ensures_pure {post : α → Prop} {value : α} (holds : post value) :
    Ensures analyzer (pure value) post :=
  fun _ right => ⟨holds, right⟩

/-- Work that ensures something ensures less. -/
theorem Ensures.imp {work : StateM Caches α} {post weaker : α → Prop}
    (ensures : Ensures analyzer work post) (less : ∀ value, post value → weaker value) :
    Ensures analyzer work weaker :=
  fun caches right => ⟨less _ (ensures caches right).1, (ensures caches right).2⟩

/-- Work after other work starts from the outcome and the caches of the other. -/
theorem Ensures.bind {work : StateM Caches α} {next : α → StateM Caches β} {middle : α → Prop}
    {post : β → Prop} (first : Ensures analyzer work middle)
    (rest : ∀ value, middle value → Ensures analyzer (next value) post) :
    Ensures analyzer (work >>= next) post := by
  intro caches right
  obtain ⟨holds, kept⟩ := first caches right
  exact rest _ holds _ kept

/-! ## Work that may fail -/

section Failing

variable {fails answered : ε → Prop} {holds : α → Prop} {post : β → Prop}

/-- An outcome that is known without the caches. -/
theorem ensures_ofExcept {result : Except ε α} (known : Outcome fails holds result) :
    Ensures analyzer (ExceptT.run (ExceptT.mk (pure result))) (Outcome fails holds) :=
  ensures_pure known

/-- A value of work that may fail. -/
theorem ensures_return {value : α} (known : holds value) :
    Ensures analyzer (pure value : ExceptT ε (StateM Caches) α).run (Outcome fails holds) :=
  ensures_pure known

/-- A failure of the first part is one of the whole. -/
theorem Ensures.bindExcept {work : ExceptT ε (StateM Caches) α}
    {next : α → ExceptT ε (StateM Caches) β}
    (first : Ensures analyzer work.run (Outcome fails holds))
    (rest : ∀ value, holds value → Ensures analyzer (next value).run (Outcome fails post)) :
    Ensures analyzer (work >>= next).run (Outcome fails post) := by
  rw [ExceptT.run_bind]
  apply first.bind
  intro result known
  cases result with
  | error error => exact ensures_pure known
  | ok value => exact rest value known

/-- A failure may be answered. -/
theorem Ensures.tryCatch {work : ExceptT ε (StateM Caches) α}
    {handle : ε → ExceptT ε (StateM Caches) α}
    (first : Ensures analyzer work.run (Outcome fails holds))
    (answer : ∀ error, fails error → Ensures analyzer (handle error).run (Outcome answered holds)) :
    Ensures analyzer (tryCatch work handle).run (Outcome answered holds) := by
  rw [ExceptT.run_tryCatch]
  apply first.bind
  intro result known
  cases result with
  | error error => exact answer error known
  | ok value => exact ensures_pure known

/-- The value that work hands on may be changed. -/
theorem Ensures.map {work : ExceptT ε (StateM Caches) α} {change : α → β}
    (first : Ensures analyzer work.run (Outcome fails holds))
    (changed : ∀ value, holds value → post (change value)) :
    Ensures analyzer (change <$> work).run (Outcome fails post) := by
  rw [map_eq_pure_bind]
  exact first.bindExcept fun value known => ensures_return (changed value known)

/-- Work that leaves right patterns, whatever its outcome. -/
def Keeps (analyzer : Analyzer) (work : ExceptT ε (StateM Caches) α) : Prop :=
  Ensures analyzer work.run (Outcome (fun _ => True) fun _ => True)

/-- Work that ensures something leaves right patterns. -/
theorem Ensures.keeps {work : ExceptT ε (StateM Caches) α} {post : Except ε α → Prop}
    (ensures : Ensures analyzer work.run post) : Keeps analyzer work :=
  ensures.imp fun result _ => by cases result <;> trivial

/-- Two parts that leave right patterns do so together. -/
theorem Keeps.bind {work : ExceptT ε (StateM Caches) α} {next : α → ExceptT ε (StateM Caches) β}
    (first : Keeps analyzer work) (rest : ∀ value, Keeps analyzer (next value)) :
    Keeps analyzer (work >>= next) :=
  Ensures.bindExcept first fun value _ => rest value

/-- Changing the value of work leaves the caches as they are. -/
theorem Keeps.map {work : ExceptT ε (StateM Caches) α} (change : α → β)
    (first : Keeps analyzer work) : Keeps analyzer (change <$> work) :=
  Ensures.map first fun _ _ => trivial

/-- An outcome that is known without the caches leaves them as they are. -/
theorem keeps_ofExcept (result : Except ε α) :
    Keeps analyzer (ExceptT.mk (pure result) : ExceptT ε (StateM Caches) α) :=
  fun _ right => ⟨by cases result <;> trivial, right⟩

/-- Work that begins by looking at the caches runs on with what it saw. -/
theorem ensures_get {next : Caches → ExceptT ε (StateM Caches) α} {post : Except ε α → Prop}
    (rest : ∀ caches, caches.PatternsSound analyzer →
      post ((next caches).run.run caches).1 ∧
        ((next caches).run.run caches).2.PatternsSound analyzer) :
    Ensures analyzer (get >>= next).run post :=
  rest

end Failing

/-- Work leaves right patterns wherever it is run. -/
theorem Ensures.patternsSound {work : Analysis α} {post : Except SearchError α → Prop}
    (ensures : Ensures analyzer work.run post) {caches after : Caches}
    {result : Except SearchError α} (right : caches.PatternsSound analyzer)
    (done : work.runFrom caches = (result, after)) : after.PatternsSound analyzer := by
  have kept := (ensures caches right).2
  change (work.runFrom caches).2.PatternsSound analyzer at kept
  rwa [done] at kept

/-- Work that cannot fail gives a value. -/
theorem Ensures.exists_runFrom {work : Analysis α} {holds : α → Prop}
    (ensures : Ensures analyzer work.run (Outcome (fun _ => False) holds)) {caches : Caches}
    (right : caches.PatternsSound analyzer) :
    ∃ value after, work.runFrom caches = (.ok value, after) ∧ holds value := by
  have outcome := (ensures caches right).1
  change Outcome _ _ (work.runFrom caches).1 at outcome
  cases run : work.runFrom caches with
  | mk result after =>
    rw [run] at outcome
    cases result with
    | error error => exact outcome.elim
    | ok value => exact ⟨value, after, rfl, outcome⟩

end Caches

/-! ## The call pattern -/

/-- The captures of a pattern are read line by line. -/
theorem Pattern.readLines_eq_ok {knows : String → Bool} {row offset : Nat} {lines : List String}
    {captures : List Capture} (read : readLines knows row offset lines = .ok captures) :
    lines.map Capture.parse? = captures.map some := by
  induction lines generalizing row offset captures with
  | nil =>
    cases read
    rfl
  | cons line lines ih =>
    unfold readLines at read
    split at read
    · cases read
    · rename_i capture parsed
      split at read
      · split at read
        · rename_i others rest
          cases read
          rw [List.map_cons, List.map_cons, parsed, ih rest]
        · cases read
      · cases read

/-- A pattern can be read when each of its lines names a kind that is known. -/
theorem Pattern.exists_readLines_eq_ok {knows : String → Bool} {lines : List String}
    (known : ∀ line ∈ lines, ∃ capture, Capture.parse? line = some capture ∧
      knows capture.kind = true) (row offset : Nat) :
    ∃ captures, readLines knows row offset lines = .ok captures := by
  induction lines generalizing row offset with
  | nil => exact ⟨[], rfl⟩
  | cons line lines ih =>
    obtain ⟨⟨capture, parsed, known⟩, others⟩ := List.forall_mem_cons.mp known
    obtain ⟨captures, read⟩ := ih others (row + 1) (offset + Text.byteSize line + 1)
    refine ⟨capture :: captures, ?_⟩
    unfold readLines
    simp only [parsed, known, read, if_true]

/-- The lines of a call pattern list the kinds of calls, each captured as a call. -/
theorem Language.parse_callPattern (language : Language) :
    (Text.splitAt '\n' language.callPattern).map Capture.parse? =
      (language.grammar.callKinds.map fun kind => (⟨kind, "call"⟩ : Capture)).map some := by
  cases language <;> decide +kernel

namespace Analyzer

open Caches

variable {analyzer : Analyzer} {language : Language} {pattern : CompiledPattern}

/-- A compiled call pattern captures every kind of call as a call. -/
theorem callPattern_captures (compiled : analyzer.callPattern language = .ok pattern) :
    pattern.captures = language.grammar.callKinds.map fun kind => ⟨kind, "call"⟩ := by
  unfold callPattern Pattern.compile at compiled
  split at compiled
  · rename_i captures read
    cases compiled
    have same := (Pattern.readLines_eq_ok read).symm.trans language.parse_callPattern
    exact (List.map_inj_right fun _ _ => Option.some.inj).mp same
  · cases compiled

/-- A compiled call pattern has a capture for calls. -/
theorem callPattern_index (compiled : analyzer.callPattern language = .ok pattern) :
    (pattern.index? "call").isSome = true := by
  have member : "call" ∈ pattern.captures.map Capture.name := by
    rw [callPattern_captures compiled]
    cases language <;> decide
  simp only [CompiledPattern.index?, CompiledPattern.names, List.findIdx?_isSome,
    List.any_eq_true, decide_eq_true_eq]
  exact ⟨"call", List.mem_eraseDups.mpr member, rfl⟩

/-! ## Parsing and compiling -/

/-- The call patterns of all supported languages can be compiled. -/
def PatternsCompile (analyzer : Analyzer) : Prop :=
  ∀ language, analyzer.registry.supports language = true →
    ∃ pattern, analyzer.callPattern language = .ok pattern

/-- The call patterns can be compiled when the grammars know the kinds of calls. -/
theorem patternsCompile_of_knows
    (knows : ∀ language, ∀ kind ∈ language.grammar.callKinds,
      analyzer.parser.knowsKind language kind = true) : analyzer.PatternsCompile := by
  intro language _
  have known : ∀ line ∈ Text.splitAt '\n' language.callPattern, ∃ capture,
      Capture.parse? line = some capture ∧
        analyzer.parser.knowsKind language capture.kind = true := by
    intro line member
    have parsed := List.mem_map_of_mem (f := Capture.parse?) member
    rw [language.parse_callPattern] at parsed
    obtain ⟨_, listed, same⟩ := List.mem_map.mp parsed
    obtain ⟨kind, called, rfl⟩ := List.mem_map.mp listed
    exact ⟨_, same.symm, knows language kind called⟩
  obtain ⟨captures, read⟩ := Pattern.exists_readLines_eq_ok known 0 0
  refine ⟨⟨language, captures⟩, ?_⟩
  unfold callPattern Pattern.compile
  rw [read]

/-- A refused language concerns one file. -/
theorem require_outcome (analyzer : Analyzer) (language : Language) :
    Outcome (fun error : SearchError => error.isPerFile = true)
      (fun _ => analyzer.registry.supports language = true)
      (analyzer.registry.require language) := by
  unfold Registry.require
  split
  · assumption
  · rfl

/-- Failures of a parse concern one file. -/
theorem parse_ensures (analyzer : Analyzer) (identity : String) (unit : SourceUnit) :
    Ensures analyzer (analyzer.parse identity unit).run
      (Outcome (fun error => error.isPerFile = true) fun _ => True) := by
  unfold parse
  apply (ensures_ofExcept (analyzer.require_outcome unit.language)).bindExcept
  intro _ _
  apply ensures_get
  intro caches right
  cases caches.trees.get? (Fingerprint.key identity unit.language unit.text) with
  | some tree => exact ⟨trivial, right⟩
  | none =>
    cases analyzer.parser.tree? unit.language unit.text with
    | none => exact ⟨rfl, right⟩
    | some tree => exact ⟨trivial, right⟩

/-- Where the call pattern of a supported language can be compiled, it is found in the
caches or compiled and kept. -/
theorem compile_ensures (supported : analyzer.registry.supports language = true)
    (compiled : analyzer.callPattern language = .ok pattern) {fails : SearchError → Prop} :
    Ensures analyzer (analyzer.compile language language.callPattern).run
      (Outcome fails fun found => analyzer.callPattern language = .ok found) := by
  have required : analyzer.registry.require language = .ok () := by
    simp [Registry.require, supported]
  unfold compile
  apply ensures_get
  intro caches right
  cases found : caches.patterns.get? (language, Pattern.key language.callPattern) with
  | some held =>
    have same : analyzer.callPattern language = .ok held :=
      right ((language, Pattern.key language.callPattern), held) (mem_of_find?_key found)
    exact ⟨same, right⟩
  | none =>
    have kept := right.addPattern (Pattern.key language.callPattern) compiled
    have anew := compiled
    unfold callPattern at anew
    simp only [required, anew]
    exact ⟨compiled, kept⟩

/-- A search for calls gets the compiled call pattern of a supported language. -/
theorem compileFor_ensures_of_supports (compiles : analyzer.PatternsCompile)
    (supported : analyzer.registry.supports language = true) (fails : SearchError → Prop) :
    Ensures analyzer (analyzer.compileFor language .functionCalls).run
      (Outcome fails fun found => ∃ pattern, found = some pattern ∧
        analyzer.callPattern language = .ok pattern) := by
  obtain ⟨pattern, compiled⟩ := compiles language supported
  have text : analyzer.patternText language .functionCalls = .ok (some language.callPattern) := by
    unfold patternText Registry.require
    rw [if_pos supported]
    rfl
  unfold compileFor
  rw [text]
  apply (compile_ensures supported compiled).bindExcept
  exact fun found same => ensures_return ⟨found, rfl, same⟩

/-- A search for calls gets the compiled call pattern, or an error that concerns one file. -/
theorem compileFor_ensures (compiles : analyzer.PatternsCompile) (language : Language) :
    Ensures analyzer (analyzer.compileFor language .functionCalls).run
      (Outcome (fun error => error.isPerFile = true)
        fun found => ∀ pattern ∈ found, analyzer.callPattern language = .ok pattern) := by
  by_cases supported : analyzer.registry.supports language = true
  · have ensures := compileFor_ensures_of_supports compiles supported
      fun error : SearchError => error.isPerFile = true
    refine ensures.imp fun result known => ?_
    cases result with
    | error error => exact known
    | ok found =>
      obtain ⟨pattern, rfl, compiled⟩ := known
      rintro _ ⟨⟩
      exact compiled
  · have refused : Outcome (fun error : SearchError => error.isPerFile = true) (fun _ => False)
        (analyzer.patternText language .functionCalls) := by
      unfold patternText Registry.require
      rw [if_neg supported]
      rfl
    unfold compileFor
    exact (ensures_ofExcept refused).bindExcept fun _ none => none.elim

/-- Failures of an outline concern one file. -/
theorem outline_outcome (analyzer : Analyzer) (parsed : ParsedTree) (unit : SourceUnit) :
    Outcome (fun error : SearchError => error.isPerFile = true) (fun _ => True)
      (analyzer.outline parsed unit) := by
  have required := analyzer.require_outcome unit.language
  unfold outline
  cases refused : analyzer.registry.require unit.language with
  | error error =>
    rw [refused] at required
    exact required
  | ok _ => trivial

/-- Failures of a listing concern one file. -/
theorem symbols_ensures (analyzer : Analyzer) (identity : String) (unit : SourceUnit) :
    Ensures analyzer (analyzer.symbols identity unit).run
      (Outcome (fun error => error.isPerFile = true) fun _ => True) :=
  (analyzer.parse_ensures identity unit).bindExcept fun parsed _ =>
    ensures_ofExcept (analyzer.outline_outcome parsed unit)

end Analyzer

end CodeAtlas
