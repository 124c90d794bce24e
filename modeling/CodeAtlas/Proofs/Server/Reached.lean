import CodeAtlas.Proofs.Engine.Failures
import CodeAtlas.Proofs.Engine.History
import CodeAtlas.Proofs.Server.Steady

/-!
# The caches that an engine can be in

An engine serves operations and lines of clients in any order, and its files may change in
between. Two things hold of the caches it can be in. The patterns are right, provided that
the call patterns can be compiled. The trees are right as well, provided that the keys of
what was hashed tell the sources apart.
-/

namespace CodeAtlas

open Caches

/-- The caches an engine can be in after any operations and any lines of a client, with
whatever files it finds at each, and the sources that were hashed on the way. -/
inductive Reached (config : Config) (analyzer : Analyzer) : List Source → Caches → Prop where
  | fresh : Reached config analyzer [] (.fresh config.treeCacheSize)
  | operation {hashed : List Source} {caches : Caches} (files : FileSystem)
    (source : ContentSource) (operation : Operation)
    (before : Reached config analyzer hashed caches) :
    Reached config analyzer
      (hashed ++ operation.sources ⟨config, analyzer, files, source⟩ caches)
      ((operation.perform ⟨config, analyzer, files, source⟩).runFrom caches).2
  | line {hashed : List Source} {caches : Caches} (files : FileSystem)
    (source : ContentSource) (line : String) (before : Reached config analyzer hashed caches) :
    Reached config analyzer
      (hashed ++ Session.lineSources ⟨config, analyzer, files, source⟩ line caches)
      ((Session.respond ⟨config, analyzer, files, source⟩ line).run caches).2

/-- Caches that an engine can be in are sound for the sources that were hashed. -/
theorem Reached.sound {config : Config} {analyzer : Analyzer} {known hashed : List Source}
    {caches : Caches} (apart : Source.Apart known) (reached : Reached config analyzer hashed caches)
    (listed : hashed ⊆ known) : caches.Sound analyzer known := by
  induction reached with
  | fresh => exact fresh_sound analyzer known config.treeCacheSize
  | operation files source operation before ih =>
    obtain ⟨earlier, here⟩ := List.append_subset.mp listed
    have sound := ih earlier
    have steady : Steady analyzer known
        (operation.perform ⟨config, analyzer, files, source⟩).run :=
      operation.perform_steady apart sound here
    exact (steady.yields sound _ sound).2
  | line files source line before ih =>
    obtain ⟨earlier, here⟩ := List.append_subset.mp listed
    have sound := ih earlier
    have steady : Steady analyzer known
        (Session.respond ⟨config, analyzer, files, source⟩ line) :=
      Session.respond_steady apart sound here
    exact (steady.yields sound _ sound).2

/-! ## Right patterns -/

/-- Every operation leaves right patterns. -/
theorem Operation.perform_keeps {engine : Engine} (compiles : engine.analyzer.PatternsCompile)
    (operation : Operation) : Keeps engine.analyzer (operation.perform engine) := by
  cases operation with
  | search query =>
    refine Keeps.map _ ?_
    unfold Engine.search
    split
    · exact (Engine.walk_keeps compiles query.scope query).bind fun _ => keeps_ofExcept (.ok _)
    · exact Engine.searchFile_keeps compiles query.scope query
  | searchFile path query => exact (Engine.searchFile_keeps compiles path query).map _
  | searchDirectory root query =>
    refine Keeps.map _ ?_
    exact (Engine.walk_keeps compiles root query).bind fun _ => keeps_ofExcept (.ok _)
  | walk root query => exact (Engine.walk_keeps compiles root query).map _
  | fileOutcome path query cap =>
    exact (Engine.fileOutcome_ensures compiles path query cap).keeps.map _
  | searchSource identity unit query =>
    exact (Engine.searchSource_ensures compiles identity unit query).keeps.map _
  | symbols identity unit => exact (engine.analyzer.symbols_ensures identity unit).keeps.map _
  | extractSymbols unit => exact (engine.analyzer.symbols_ensures _ unit).keeps.map _
  | extractFunction unit name => exact (engine.lookup_keeps unit _).map _
  | extractClass unit name => exact (engine.lookup_keeps unit _).map _
  | methodsOf unit name => exact (engine.lookup_keeps unit _).map _
  | load path revision => exact keeps_ofExcept _
  | readText path revision => exact keeps_ofExcept _
  | clearCaches => exact fun _ _ => ⟨trivial, fun _ present => absurd present List.not_mem_nil⟩

/-- Work of the engine that leaves right patterns does so in a call. -/
theorem Calling.ofAnalysis_keeps {analyzer : Analyzer} {α : Type} {work : Analysis α}
    (keeps : Keeps analyzer work) : Keeps analyzer (Calling.ofAnalysis work) := by
  refine Ensures.bind keeps fun result _ => ensures_pure ?_
  cases result <;> trivial

/-- Looking up a symbol of a file leaves right patterns. -/
theorem Engine.lookupFor_keeps (engine : Engine) (path : String)
    (choose : List Symbol → Option Symbol) (failure : ToolFailure) :
    Keeps engine.analyzer (do
      let unit ← engine.loadFor path
      match ← Calling.ofAnalysis (do return choose (← engine.extractSymbols unit)) with
      | some found => return (unit, found)
      | none => throw failure : Calling (SourceUnit × Symbol)) := by
  refine (keeps_ofExcept _).bind fun unit => ?_
  refine (Calling.ofAnalysis_keeps (engine.lookup_keeps unit choose)).bind fun found => ?_
  cases found with
  | none => exact keeps_ofExcept (.error failure)
  | some symbol => exact keeps_ofExcept (.ok (unit, symbol))

/-- Every tool leaves right patterns. -/
theorem Engine.call_keeps {engine : Engine} (compiles : engine.analyzer.PatternsCompile)
    (arguments : Json) (tool : Tool) : Keeps engine.analyzer (engine.call arguments tool) := by
  cases tool with
  | symbols =>
    refine (keeps_ofExcept _).bind fun path => (keeps_ofExcept _).bind fun unit => ?_
    exact (Calling.ofAnalysis_keeps (engine.analyzer.symbols_ensures path unit).keeps).bind
      fun _ => keeps_ofExcept (.ok _)
  | function =>
    refine (keeps_ofExcept _).bind fun path => (keeps_ofExcept _).bind fun name => ?_
    exact (engine.lookupFor_keeps path _ _).bind fun _ => keeps_ofExcept (.ok _)
  | «class» =>
    refine (keeps_ofExcept _).bind fun path => (keeps_ofExcept _).bind fun name => ?_
    refine (engine.lookupFor_keeps path _ _).bind fun (unit, found) => ?_
    exact (Calling.ofAnalysis_keeps (engine.lookup_keeps unit _)).bind
      fun _ => keeps_ofExcept (.ok _)
  | signature =>
    refine (keeps_ofExcept _).bind fun path => (keeps_ofExcept _).bind fun name => ?_
    exact (engine.lookupFor_keeps path _ _).bind fun _ => keeps_ofExcept (.ok _)
  | lines =>
    refine (keeps_ofExcept _).bind fun path => (keeps_ofExcept _).bind fun first => ?_
    refine (keeps_ofExcept _).bind fun last => (keeps_ofExcept _).bind fun text => ?_
    exact (keeps_ofExcept _).bind fun _ => keeps_ofExcept (.ok _)
  | search =>
    refine (keeps_ofExcept _).bind fun query => ?_
    refine (Calling.ofAnalysis_keeps ?_).bind fun _ => keeps_ofExcept (.ok _)
    unfold Engine.report
    split
    · exact Engine.walk_keeps compiles query.scope query
    · exact (Engine.searchFile_keeps compiles query.scope query).bind
        fun _ => keeps_ofExcept (.ok _)

/-- Answering a request leaves right patterns. -/
theorem Session.answer_ensures {engine : Engine} (compiles : engine.analyzer.PatternsCompile)
    (request : Request) : Ensures engine.analyzer (answer engine request) fun _ => True := by
  have called : Ensures engine.analyzer (answerCall engine request.params) fun _ => True := by
    unfold answerCall
    cases ToolCall.ofParams request.params with
    | error error => exact ensures_pure trivial
    | ok call =>
      simp only
      cases Tool.ofName? call.name with
      | none => exact ensures_pure trivial
      | some tool =>
        exact Ensures.bind (Engine.call_keeps compiles call.arguments tool)
          fun _ _ => ensures_pure trivial
  unfold answer
  cases Method.ofName request.method with
  | callTool => exact called.bind fun _ _ => ensures_pure trivial
  | _ => exact ensures_pure trivial

/-- Answering a line leaves right patterns. -/
theorem Session.respond_ensures {engine : Engine} (compiles : engine.analyzer.PatternsCompile)
    (line : String) : Ensures engine.analyzer (respond engine line) fun _ => True := by
  unfold respond
  cases Incoming.ofLine? line with
  | none => exact ensures_pure trivial
  | some incoming =>
    cases incoming with
    | unreadable => exact ensures_pure trivial
    | request request =>
      exact (answer_ensures compiles request).bind fun _ _ => ensures_pure trivial

/-- The patterns that an engine can have are right. -/
theorem Reached.patternsSound {config : Config} {analyzer : Analyzer} {hashed : List Source}
    {caches : Caches} (compiles : analyzer.PatternsCompile)
    (reached : Reached config analyzer hashed caches) : caches.PatternsSound analyzer := by
  induction reached with
  | fresh => exact fresh_patternsSound analyzer config.treeCacheSize
  | operation files source operation before ih =>
    exact (@Operation.perform_keeps ⟨config, analyzer, files, source⟩ compiles operation _ ih).2
  | line files source line before ih =>
    exact (@Session.respond_ensures ⟨config, analyzer, files, source⟩ compiles line _ ih).2

end CodeAtlas
