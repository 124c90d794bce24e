import CodeAtlas.Proofs.Caches.Sound
import Mathlib.Data.List.Forall2

/-!
# Work that does not depend on the caches

Work is steady when sound caches can neither change its result nor be spoilt by it. The
rules here follow the way work is put together, so that a result about a whole operation
is assembled from its parts. The parts that look into the caches are parsing and compiling
the call pattern: both are steady, and their results are what computing anew gives.
-/

namespace CodeAtlas

namespace Caches

variable {analyzer : Analyzer} {known : List Source} {α β ε : Type}

/-- From sound caches, work has this result and leaves sound caches. -/
def Yields (analyzer : Analyzer) (known : List Source) (work : StateM Caches α) (result : α) :
    Prop :=
  ∀ caches, caches.Sound analyzer known →
    (work.run caches).1 = result ∧ (work.run caches).2.Sound analyzer known

/-- The result of work is the same from all sound caches, which it leaves sound. -/
def Steady (analyzer : Analyzer) (known : List Source) (work : StateM Caches α) : Prop :=
  ∃ result, Yields analyzer known work result

/-- Work with a known result is steady. -/
theorem Yields.steady {work : StateM Caches α} {result : α}
    (yields : Yields analyzer known work result) : Steady analyzer known work :=
  ⟨result, yields⟩

/-- The result of steady work from some sound caches is its result from all. -/
theorem Steady.yields {work : StateM Caches α} (steady : Steady analyzer known work)
    {caches : Caches} (sound : caches.Sound analyzer known) :
    Yields analyzer known work (work.run caches).1 := by
  obtain ⟨result, yields⟩ := steady
  rw [(yields caches sound).1]
  exact yields

/-- A value is its own result. -/
theorem yields_pure (value : α) : Yields analyzer known (pure value) value :=
  fun _ sound => ⟨rfl, sound⟩

/-- Work after other work starts from caches that the other work left sound. -/
theorem Yields.bind {work : StateM Caches α} {next : α → StateM Caches β} {middle : α}
    {result : β} (first : Yields analyzer known work middle)
    (rest : Yields analyzer known (next middle) result) :
    Yields analyzer known (work >>= next) result := by
  intro caches sound
  obtain ⟨same, kept⟩ := first caches sound
  change ((next (work.run caches).1).run (work.run caches).2).1 = result ∧
    ((next (work.run caches).1).run (work.run caches).2).2.Sound analyzer known
  rw [same]
  exact rest _ kept

/-- Steady work after steady work is steady. -/
theorem Steady.bind {work : StateM Caches α} {next : α → StateM Caches β}
    (first : Steady analyzer known work)
    (rest : ∀ middle, Yields analyzer known work middle → Steady analyzer known (next middle)) :
    Steady analyzer known (work >>= next) := by
  obtain ⟨middle, yields⟩ := first
  obtain ⟨result, done⟩ := rest middle yields
  exact (yields.bind done).steady

/-! ## Work that may fail -/

/-- A result that is known without the caches is the result. -/
theorem yields_ofExcept (result : Except ε α) :
    Yields analyzer known (ExceptT.run (ExceptT.mk (pure result))) result :=
  yields_pure result

/-- Giving up has its error as the result. -/
theorem yields_throw (error : ε) :
    Yields analyzer known (throw error : ExceptT ε (StateM Caches) α).run (.error error) :=
  yields_pure (Except.error error)

/-- Work that fails ends the work it is the first part of. -/
theorem Yields.bindError {work : ExceptT ε (StateM Caches) α}
    {next : α → ExceptT ε (StateM Caches) β} {error : ε}
    (first : Yields analyzer known work.run (.error error)) :
    Yields analyzer known (work >>= next).run (.error error) := by
  rw [ExceptT.run_bind]
  exact Yields.bind first (yields_pure _)

/-- Work that succeeds hands its value on. -/
theorem Yields.bindOk {work : ExceptT ε (StateM Caches) α}
    {next : α → ExceptT ε (StateM Caches) β} {value : α} {result : Except ε β}
    (first : Yields analyzer known work.run (.ok value))
    (rest : Yields analyzer known (next value).run result) :
    Yields analyzer known (work >>= next).run result := by
  rw [ExceptT.run_bind]
  exact Yields.bind first rest

/-- Changing the value that work hands on changes its known result in the same way. -/
theorem Yields.map {work : ExceptT ε (StateM Caches) α} {result : Except ε α}
    (first : Yields analyzer known work.run result) (change : α → β) :
    Yields analyzer known (do return change (← work) : ExceptT ε (StateM Caches) β).run
      (result.map change) := by
  cases result with
  | error error => exact first.bindError
  | ok value => exact first.bindOk (yields_pure _)

/-- Steady work on the value of work that succeeds is steady. -/
theorem Steady.bindOk {work : ExceptT ε (StateM Caches) α}
    {next : α → ExceptT ε (StateM Caches) β} {value : α}
    (first : Yields analyzer known work.run (.ok value))
    (rest : Steady analyzer known (next value).run) :
    Steady analyzer known (work >>= next).run := by
  obtain ⟨result, done⟩ := rest
  exact (first.bindOk done).steady

/-- Steady work that may fail, followed by work that is steady for every value it can
hand on, is steady. -/
theorem Steady.bindExcept {work : ExceptT ε (StateM Caches) α}
    {next : α → ExceptT ε (StateM Caches) β} (first : Steady analyzer known work.run)
    (rest : ∀ value, Yields analyzer known work.run (.ok value) →
      Steady analyzer known (next value).run) :
    Steady analyzer known (work >>= next).run := by
  obtain ⟨result, yields⟩ := first
  cases result with
  | error error => exact yields.bindError.steady
  | ok value => exact Steady.bindOk yields (rest value yields)

/-- Work that begins by looking at the caches runs on with what it saw. -/
theorem yields_get {next : Caches → ExceptT ε (StateM Caches) α} {result : Except ε α}
    (rest : ∀ caches, caches.Sound analyzer known →
      ((next caches).run.run caches).1 = result ∧
        ((next caches).run.run caches).2.Sound analyzer known) :
    Yields analyzer known (get >>= next).run result :=
  rest

/-- Changing the value that steady work hands on keeps it steady. -/
theorem Steady.map {work : ExceptT ε (StateM Caches) α} (change : α → β)
    (first : Steady analyzer known work.run) : Steady analyzer known (change <$> work).run := by
  rw [map_eq_pure_bind]
  exact first.bindExcept fun value _ => (yields_pure (Except.ok (change value))).steady

/-- Steady work whose failures are answered without the caches is steady. -/
theorem Steady.tryCatch {work : ExceptT ε (StateM Caches) α}
    {handle : ε → ExceptT ε (StateM Caches) α} (first : Steady analyzer known work.run)
    (answered : ∀ error, Steady analyzer known (handle error).run) :
    Steady analyzer known (tryCatch work handle).run := by
  rw [ExceptT.run_tryCatch]
  apply Steady.bind first
  intro result _
  cases result with
  | error error => exact answered error
  | ok value => exact (yields_pure _).steady

/-! ## Runs -/

variable {ι : Type} (step : ι → StateM Caches α) (sources : ι → Caches → List Source)

/-- The results of steps taken one after the other. -/
def serve : List ι → StateM Caches (List α)
  | [] => return []
  | item :: items => do
    let first ← step item
    let others ← serve items
    return first :: others

/-- The sources hashed by steps taken one after the other from given caches, when the
sources of one step are given. -/
def hashed : List ι → Caches → List Source
  | [], _ => []
  | item :: items, caches => sources item caches ++ hashed items ((step item).run caches).2

variable {step sources}

/-- A run of one step has its result alone. -/
theorem serve_single (item : ι) (caches : Caches) :
    ((serve step [item]).run caches).1 = [((step item).run caches).1] := rfl

/-- What every step gives from whatever caches holds of all results of a run. -/
theorem serve_forall₂ {holds : ι → α → Prop}
    (each : ∀ item caches, holds item ((step item).run caches).1) (items : List ι)
    (caches : Caches) : List.Forall₂ holds items ((serve step items).run caches).1 := by
  induction items generalizing caches with
  | nil => exact .nil
  | cons item items ih => exact .cons (each item caches) (ih _)

/-- A run of steps that are steady as long as their sources are known: from sound caches,
every step has the result that it has from other sound caches, and the caches stay sound. -/
theorem serve_run {start caches : Caches}
    (steady : ∀ item caches, caches.Sound analyzer known → sources item caches ⊆ known →
      Steady analyzer known (step item))
    (fresh : start.Sound analyzer known) (sound : caches.Sound analyzer known) (items : List ι)
    (listed : hashed step sources items caches ⊆ known) :
    ((serve step items).run caches).1 = items.map (fun item => ((step item).run start).1) ∧
      ((serve step items).run caches).2.Sound analyzer known := by
  induction items generalizing caches with
  | nil => exact ⟨rfl, sound⟩
  | cons item items ih =>
    obtain ⟨here, later⟩ := List.append_subset.mp listed
    -- The step has one result for both caches.
    have yields := (steady item caches sound here).yields fresh
    obtain ⟨same, kept⟩ := yields caches sound
    obtain ⟨others, last⟩ := ih kept later
    refine ⟨?_, last⟩
    change ((step item).run caches).1 ::
      ((serve step items).run ((step item).run caches).2).1 = _
    rw [same, others]
    rfl

end Caches

/-! ## Parsing and compiling -/

namespace Analyzer

open Caches

variable {analyzer : Analyzer} {known : List Source}

/-- The sources that are hashed when a text is parsed: the text itself, unless its
language is refused first. -/
def parsedSources (analyzer : Analyzer) (identity : String) (unit : SourceUnit) : List Source :=
  if analyzer.registry.supports unit.language then [⟨identity, unit⟩] else []

/-- What parsing a text anew gives. -/
def parsed (analyzer : Analyzer) (identity : String) (unit : SourceUnit) :
    Except SearchError ParsedTree := do
  analyzer.registry.require unit.language
  match analyzer.parser.tree? unit.language unit.text with
  | none => throw (.parseFailure ("parser gave up on " ++ identity))
  | some tree => return ⟨tree, unit.language, Fingerprint.key identity unit.language unit.text⟩

/-- Where keys tell the known sources apart, parsing a known source gives what parsing it
anew gives, from whatever sound caches. -/
theorem parse_yields
    (apart : Source.Apart known)
    {identity : String} {unit : SourceUnit}
    (listed : analyzer.parsedSources identity unit ⊆ known) :
    Yields analyzer known (analyzer.parse identity unit).run (analyzer.parsed identity unit) := by
  by_cases supported : analyzer.registry.supports unit.language
  · have required : analyzer.registry.require unit.language = .ok () := by
      simp [Registry.require, supported]
    have member : (⟨identity, unit⟩ : Source) ∈ known := by
      apply listed
      simp [parsedSources, supported]
    unfold parse parsed
    rw [required]
    apply Yields.bindOk (yields_ofExcept (.ok ()))
    apply yields_get
    intro caches sound
    change _ = (match analyzer.parser.tree? unit.language unit.text with
      | none => throw (.parseFailure ("parser gave up on " ++ identity))
      | some tree => pure ⟨tree, unit.language, Fingerprint.key identity unit.language unit.text⟩
      : Except SearchError ParsedTree) ∧ _
    cases found : caches.trees.get? (Fingerprint.key identity unit.language unit.text) with
    | some tree =>
      -- A hit: soundness says which tree it is.
      have same : analyzer.parser.tree? unit.language unit.text = some tree :=
        sound.tree_eq apart member found
      rw [same]
      exact ⟨rfl, sound⟩
    | none =>
      cases grown : analyzer.parser.tree? unit.language unit.text with
      | none => exact ⟨rfl, sound⟩
      | some tree =>
        refine ⟨rfl, ?_⟩
        change Caches.Sound analyzer known { caches with
          trees := caches.trees.insert (Source.key ⟨identity, unit⟩) tree }
        exact sound.addTree member grown
  · have required : analyzer.registry.require unit.language =
        .error (.unsupportedLanguage unit.language.id) := by
      simp [Registry.require, supported]
    unfold parse parsed
    rw [required]
    exact (yields_ofExcept (.error _)).bindError

/-- Compiling the call pattern of a language gives what compiling it anew gives. -/
theorem compile_yields {language : Language}
    (required : analyzer.registry.require language = .ok ()) :
    Yields analyzer known (analyzer.compile language language.callPattern).run
      (analyzer.callPattern language) := by
  unfold compile
  apply yields_get
  intro caches sound
  cases found : caches.patterns.get? (language, Pattern.key language.callPattern) with
  | some pattern =>
    rw [sound.pattern_eq found]
    exact ⟨rfl, sound⟩
  | none =>
    cases compiled : analyzer.callPattern language with
    | error error =>
      unfold callPattern at compiled
      simp only [required, compiled]
      exact ⟨rfl, sound⟩
    | ok pattern =>
      have kept := sound.addPattern (Pattern.key language.callPattern) compiled
      unfold callPattern at compiled
      simp only [required, compiled]
      exact ⟨rfl, kept⟩

/-- The compiled pattern of a call search is the same from all sound caches. -/
theorem compileFor_steady (analyzer : Analyzer) (known : List Source) (language : Language) :
    Steady analyzer known (analyzer.compileFor language .functionCalls).run := by
  unfold compileFor
  cases required : analyzer.registry.require language with
  | error error =>
    have refused : analyzer.patternText language .functionCalls = .error error := by
      unfold patternText
      rw [required]
      rfl
    rw [refused]
    exact (yields_ofExcept (.error error)).bindError.steady
  | ok _ =>
    have text : analyzer.patternText language .functionCalls = .ok (some language.callPattern) := by
      unfold patternText
      rw [required]
      rfl
    rw [text]
    apply Steady.bindOk (yields_ofExcept (.ok _))
    exact (compile_yields required).steady.bindExcept fun _ _ => (yields_pure _).steady

/-- The symbols of a known source are the outline of its tree, from whatever sound
caches. -/
theorem symbols_yields
    (apart : Source.Apart known)
    {identity : String} {unit : SourceUnit}
    (listed : analyzer.parsedSources identity unit ⊆ known) :
    Yields analyzer known (analyzer.symbols identity unit).run
      (analyzer.parsed identity unit >>= fun tree => analyzer.outline tree unit) := by
  have first := parse_yields apart listed
  unfold symbols
  cases grown : analyzer.parsed identity unit with
  | error error =>
    rw [grown] at first
    exact first.bindError
  | ok tree =>
    rw [grown] at first
    exact first.bindOk (yields_ofExcept _)

end Analyzer

end CodeAtlas
