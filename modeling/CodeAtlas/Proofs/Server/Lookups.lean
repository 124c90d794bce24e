import CodeAtlas.Proofs.Engine.Classes
import CodeAtlas.Proofs.Server.Reached

/-!
# The symbol tools agree

Four tools answer from the symbols of a file: one lists them, and three look something up
by its name. They go different ways: the listing remembers the file under its path and the
look-ups under a name that all texts share, and the look-up of a class lists the symbols
twice. From whatever caches an engine can be in, all of them answer from one and the same
list.
-/

namespace CodeAtlas

open Caches

/-! ## Fields of objects -/

namespace Json

/-- A field that was put in its place is found there, and all others as before. -/
theorem find?_insertField (name label : String) (value : Json) (fields : List (String × Json)) :
    ((insertField name value fields).find? fun field => field.1 = label) =
      if name = label then some (name, value)
      else fields.find? fun field => field.1 = label := by
  induction fields with
  | nil => simp [insertField, List.find?_singleton]
  | cons field fields ih =>
    obtain ⟨other, old⟩ := field
    unfold insertField
    split
    · rw [List.find?_cons]
      by_cases same : name = label <;> simp [same]
    · split
      · rename_i equal
        subst equal
        by_cases same : name = label <;> simp [same]
      · rename_i different
        rw [List.find?_cons, List.find?_cons, ih]
        by_cases found : other = label
        · have moved : name ≠ label := fun same => different (same.trans found.symm)
          simp [found, moved]
        · simp [found]

/-- The value of a field is the last one that was given for its name. -/
theorem field?_ofFields (fields : List (String × Json)) (name : String) :
    (ofFields fields).field? name = fields.reverse.lookup name := by
  unfold ofFields field?
  rw [← List.foldr_reverse]
  induction fields.reverse with
  | nil => rfl
  | cons field earlier ih =>
    simp only at ih ⊢
    rw [List.foldr_cons, find?_insertField, List.lookup_cons]
    by_cases same : field.1 = name
    · subst same
      simp
    · have different : (name == field.1) = false := by simpa using Ne.symm same
      rw [if_neg same, different]
      exact ih

/-- Two objects have the same value under each of some labels. -/
def AgreeOn (labels : List String) (left right : Json) : Prop :=
  ∀ label ∈ labels, ∃ value, left.field? label = some value ∧ right.field? label = some value

end Json

/-! ## Listings anew -/

namespace Analyzer

variable {analyzer : Analyzer} {unit : SourceUnit} {listed : List Symbol}

/-- The symbols of a text that is parsed anew. -/
def outlined (analyzer : Analyzer) (identity : String) (unit : SourceUnit) :
    Except SearchError (List Symbol) :=
  analyzer.parsed identity unit >>= fun tree => analyzer.outline tree unit

/-- The symbols of a text that is parsed anew are the outline of its tree, if its language
is supported and the parser gives one. -/
theorem outlined_eq_ok {identity : String} :
    analyzer.outlined identity unit = .ok listed ↔
      analyzer.registry.require unit.language = .ok () ∧
        (analyzer.parser.tree? unit.language unit.text).map
          (Outline.symbols unit.language.grammar unit.text) = some listed := by
  unfold outlined parsed
  cases required : analyzer.registry.require unit.language with
  | error error => exact ⟨fun done => (nomatch done), fun ⟨accepted, _⟩ => (nomatch accepted)⟩
  | ok _ =>
    cases analyzer.parser.tree? unit.language unit.text with
    | none => exact ⟨fun done => (nomatch done), fun ⟨_, grown⟩ => (nomatch grown)⟩
    | some tree =>
      change analyzer.outline _ unit = .ok listed ↔ _
      unfold outline
      rw [required]
      simp [pure, Except.pure, bind, Except.bind]

/-- A text that is parsed anew has the same symbols under every identity. -/
theorem outlined_identity {first : String} (second : String)
    (done : analyzer.outlined first unit = .ok listed) :
    analyzer.outlined second unit = .ok listed := by
  rw [outlined_eq_ok] at done ⊢
  exact done

end Analyzer

namespace Engine

variable {engine : Engine} {known : List Source} {path : String}

/-- The text of a file and its symbols, parsed anew under an identity. -/
def fileOutline (engine : Engine) (identity path : String) :
    Except ToolFailure (SourceUnit × List Symbol) :=
  match engine.load path none with
  | .error error => .error (.loading path error)
  | .ok unit =>
    match engine.analyzer.outlined identity unit with
    | .error error => .error (.engine error)
    | .ok listed => .ok (unit, listed)

/-- The first symbol of a file that fits, and what is answered for it. -/
def lookUp (engine : Engine) (path : String) (fits : Symbol → Bool) (failure : ToolFailure)
    (answer : SourceUnit → List Symbol → Symbol → ToolAnswer) : Except ToolFailure ToolAnswer :=
  match engine.fileOutline inlineIdentity path with
  | .error failure => .error failure
  | .ok (unit, listed) =>
    match listed.find? fits with
    | some found => .ok (answer unit listed found)
    | none => .error failure

/-- The sources that the symbol tools hash for a file: its text under its path, and under
the name that all texts share. -/
def outlineSources (engine : Engine) (path : String) : List Source :=
  match engine.load path none with
  | .ok unit => engine.analyzer.parsedSources path unit ++ engine.inlineSources unit
  | .error _ => []

/-- Once a file is loaded, the sources of both ways to list it are known. -/
theorem sources_of_load {unit : SourceUnit} (listed : engine.outlineSources path ⊆ known)
    (loaded : engine.load path none = .ok unit) :
    engine.analyzer.parsedSources path unit ⊆ known ∧ engine.inlineSources unit ⊆ known := by
  unfold outlineSources at listed
  rw [loaded] at listed
  exact List.append_subset.mp listed

/-! ## What the tools answer -/

/-- A call whose argument is read works on with it. -/
theorem argument_yields {β : Type} {arguments : Json} {label value : String}
    {next : String → Calling β} {result : Except ToolFailure β}
    (given : Arguments.text arguments label = .ok value)
    (rest : Yields engine.analyzer known (next value).run result) :
    Yields engine.analyzer known
      (Calling.ofExcept id (Arguments.text arguments label) >>= next).run result := by
  rw [given]
  exact Yields.bindOk (yields_ofExcept (.ok value)) rest

/-- Work of the engine with a known result has that result as work of a call. -/
theorem ofAnalysis_yields {α : Type} {work : Analysis α} {result : Except SearchError α}
    (yields : Yields engine.analyzer known work.run result) :
    Yields engine.analyzer known (Calling.ofAnalysis work).run (result.mapError .engine) :=
  yields.bind (yields_pure _)

/-- A look-up in a text chooses from the symbols that the text has when it is parsed anew. -/
theorem lookup_yields {α : Type} (apart : Source.Apart known) {unit : SourceUnit}
    (choose : List Symbol → α) (listed : engine.inlineSources unit ⊆ known) :
    Yields engine.analyzer known (do return choose (← engine.extractSymbols unit) : Analysis α).run
      ((engine.analyzer.outlined inlineIdentity unit).map choose) := by
  have first := Analyzer.symbols_yields apart listed
  change Yields _ _ _ (engine.analyzer.outlined inlineIdentity unit) at first
  exact first.map choose

/-- The listing of a file is the one that parsing it anew under its path gives. -/
theorem call_symbols_yields (apart : Source.Apart known)
    (listed : engine.outlineSources path ⊆ known) {arguments : Json}
    (file : Arguments.text arguments "file_path" = .ok path) :
    Yields engine.analyzer known (engine.call arguments .symbols).run
      ((engine.fileOutline path path).map fun found => .symbols found.2) := by
  apply argument_yields file
  unfold fileOutline loadFor
  cases loaded : engine.load path none with
  | error error => exact (yields_ofExcept (.error (ToolFailure.loading path error))).bindError
  | ok unit =>
    apply Yields.bindOk (yields_ofExcept (.ok unit))
    have first := ofAnalysis_yields
      (Analyzer.symbols_yields apart (sources_of_load listed loaded).1)
    change Yields _ _ _ (Except.mapError _ (engine.analyzer.outlined path unit)) at first
    have answered := first.map ToolAnswer.symbols
    simp only
    cases outlined : engine.analyzer.outlined path unit with
    | error error =>
      rw [outlined] at answered
      exact answered
    | ok symbols =>
      rw [outlined] at answered
      exact answered

/-- Looking up a symbol of a file and working on with it gives what parsing the file anew
gives, when the work succeeds for every symbol. -/
theorem lookup_bind_yields (apart : Source.Apart known)
    (listed : engine.outlineSources path ⊆ known) {fits : Symbol → Bool} {failure : ToolFailure}
    {next : SourceUnit × Symbol → Calling ToolAnswer}
    {answer : SourceUnit → List Symbol → Symbol → ToolAnswer}
    (rest : ∀ unit symbols found, engine.inlineSources unit ⊆ known →
      engine.analyzer.outlined inlineIdentity unit = .ok symbols →
      Yields engine.analyzer known (next (unit, found)).run (.ok (answer unit symbols found))) :
    Yields engine.analyzer known ((do
      let unit ← engine.loadFor path
      match ← Calling.ofAnalysis (do return (← engine.extractSymbols unit).find? fits) with
      | some found => return (unit, found)
      | none => throw failure : Calling (SourceUnit × Symbol)) >>= next).run
      (engine.lookUp path fits failure answer) := by
  unfold lookUp fileOutline loadFor
  rw [bind_assoc]
  cases loaded : engine.load path none with
  | error error => exact (yields_ofExcept (.error (ToolFailure.loading path error))).bindError
  | ok unit =>
    apply Yields.bindOk (yields_ofExcept (.ok unit))
    rw [bind_assoc]
    have inline := (sources_of_load listed loaded).2
    have first := ofAnalysis_yields (lookup_yields apart (fun symbols => symbols.find? fits) inline)
    cases outlined : engine.analyzer.outlined inlineIdentity unit with
    | error error =>
      rw [outlined] at first
      simp only [outlined]
      exact first.bindError
    | ok symbols =>
      rw [outlined] at first
      simp only [outlined]
      apply first.bindOk
      simp only
      cases symbols.find? fits with
      | none => exact (yields_throw failure).bindError
      | some found => exact (yields_pure _).bindOk (rest unit symbols found inline outlined)

/-- The tool for functions answers for the first function or method with the name. -/
theorem call_function_yields (apart : Source.Apart known)
    (listed : engine.outlineSources path ⊆ known) {arguments : Json} {name : String}
    (file : Arguments.text arguments "file_path" = .ok path)
    (wanted : Arguments.text arguments "function_name" = .ok name) :
    Yields engine.analyzer known (engine.call arguments .function).run
      (engine.lookUp path (fun symbol => symbol.kind.isCallable && symbol.name = name)
        (.noFunction name path) fun unit _ found => .function unit found) := by
  apply argument_yields file
  apply argument_yields wanted
  exact lookup_bind_yields apart listed fun _ _ _ _ _ => yields_pure _

/-- The tool for signatures answers for the first function or method with the name. -/
theorem call_signature_yields (apart : Source.Apart known)
    (listed : engine.outlineSources path ⊆ known) {arguments : Json} {name : String}
    (file : Arguments.text arguments "file_path" = .ok path)
    (wanted : Arguments.text arguments "function_name" = .ok name) :
    Yields engine.analyzer known (engine.call arguments .signature).run
      (engine.lookUp path (fun symbol => symbol.kind.isCallable && symbol.name = name)
        (.noFunction name path) fun _ _ found => .signature found) := by
  apply argument_yields file
  apply argument_yields wanted
  exact lookup_bind_yields apart listed fun _ _ _ _ _ => yields_pure _

/-- The tool for classes answers for the first class with the name, and chooses the methods
from the same list. -/
theorem call_class_yields (apart : Source.Apart known)
    (listed : engine.outlineSources path ⊆ known) {arguments : Json} {name : String}
    (file : Arguments.text arguments "file_path" = .ok path)
    (wanted : Arguments.text arguments "class_name" = .ok name) :
    Yields engine.analyzer known (engine.call arguments .class).run
      (engine.lookUp path (fun symbol => symbol.kind.isClassLike && symbol.name = name)
        (.noClass name path) fun unit symbols found => .class unit found
          (symbols.filter fun symbol => symbol.kind = .method && symbol.parent = some name)) := by
  apply argument_yields file
  apply argument_yields wanted
  apply lookup_bind_yields apart listed
  intro unit symbols found inline outlined
  have methods := ofAnalysis_yields (lookup_yields apart (fun symbols => symbols.filter
    fun symbol => symbol.kind = .method && symbol.parent = some name) inline)
  rw [outlined] at methods
  exact methods.bindOk (yields_pure _)

/-! ## Agreement -/

/-- A look-up agrees with a listing: it succeeds exactly when the listing succeeds and has
an entry that fits, and then reports the first such entry. -/
structure Agrees (outcome listing : Except ToolFailure ToolAnswer) (fits : Symbol → Bool)
    (reports : ToolAnswer → List Symbol → Symbol → Prop) : Prop where
  succeeds : (∃ answer, outcome = .ok answer) ↔
    ∃ listed, listing = .ok (.symbols listed) ∧ ∃ symbol ∈ listed, fits symbol = true
  reports : ∀ answer, outcome = .ok answer → ∃ listed first,
    listing = .ok (.symbols listed) ∧ listed.find? fits = some first ∧
      reports answer listed first

/-- Look-ups agree with the listing when both are done anew. -/
theorem lookUp_agrees (engine : Engine) (path : String) (fits : Symbol → Bool)
    (failure : ToolFailure) (answer : SourceUnit → List Symbol → Symbol → ToolAnswer) :
    Agrees (engine.lookUp path fits failure answer)
      ((engine.fileOutline path path).map fun found => .symbols found.2) fits
      fun reported listed first => ∃ unit, engine.load path none = .ok unit ∧
        reported = answer unit listed first := by
  unfold lookUp fileOutline
  cases loaded : engine.load path none with
  | error error =>
    exact ⟨⟨fun ⟨_, done⟩ => (nomatch done), fun ⟨_, done, _⟩ => (nomatch done)⟩,
      fun _ done => (nomatch done)⟩
  | ok unit =>
    cases outlined : engine.analyzer.outlined path unit with
    | error error =>
      -- Neither way lists anything, so the look-up cannot succeed.
      have inline : ∀ listed, engine.analyzer.outlined inlineIdentity unit ≠ .ok listed := by
        intro listed done
        rw [Analyzer.outlined_identity path done] at outlined
        cases outlined
      cases other : engine.analyzer.outlined inlineIdentity unit with
      | ok listed => exact absurd other (inline listed)
      | error error =>
        simp only [outlined, other]
        exact ⟨⟨fun ⟨_, done⟩ => (nomatch done), fun ⟨_, done, _⟩ => (nomatch done)⟩,
          fun _ done => (nomatch done)⟩
    | ok symbols =>
      simp only [outlined, Analyzer.outlined_identity inlineIdentity outlined, Except.map]
      cases chosen : symbols.find? fits with
      | none =>
        refine ⟨⟨fun ⟨_, done⟩ => (nomatch done), ?_⟩, fun _ done => (nomatch done)⟩
        rintro ⟨_, ⟨⟩, symbol, member, fit⟩
        exact absurd fit (List.find?_eq_none.mp chosen symbol member)
      | some first =>
        refine ⟨⟨fun _ => ⟨symbols, rfl, first, ?_, ?_⟩, fun _ => ⟨_, rfl⟩⟩, ?_⟩
        · exact List.mem_of_find?_eq_some chosen
        · exact List.find?_some chosen
        · rintro _ ⟨⟩
          exact ⟨symbols, first, rfl, chosen, unit, rfl, rfl⟩

/-- What is reported may be read in a weaker way. -/
theorem Agrees.imp {outcome listing : Except ToolFailure ToolAnswer} {fits : Symbol → Bool}
    {reports weaker : ToolAnswer → List Symbol → Symbol → Prop}
    (agrees : Agrees outcome listing fits reports)
    (reading : ∀ answer listed first, reports answer listed first → weaker answer listed first) :
    Agrees outcome listing fits weaker where
  succeeds := agrees.succeeds
  reports answer done := by
    obtain ⟨listed, first, lists, chosen, reported⟩ := agrees.reports answer done
    exact ⟨listed, first, lists, chosen, reading answer listed first reported⟩

/-- A function is shown with the name, type, lines and parent of its entry in a listing. -/
theorem function_agreeOn (unit : SourceUnit) (symbol : Symbol) :
    (ToolAnswer.function unit symbol).toJson.AgreeOn ["name", "type", "lines", "parent"]
      symbol.summary := by
  simp [Json.AgreeOn, ToolAnswer.toJson, Symbol.summary, Json.field?_ofFields, List.lookup_cons]

/-- A signature is shown with the name, lines and signature of its entry in a listing. -/
theorem signature_agreeOn (symbol : Symbol) :
    (ToolAnswer.signature symbol).toJson.AgreeOn ["name", "lines", "signature"]
      symbol.summary := by
  simp [Json.AgreeOn, ToolAnswer.toJson, Symbol.summary, Json.field?_ofFields, List.lookup_cons]

/-- A class is shown with the name, type and lines of its entry in a listing. -/
theorem class_agreeOn (unit : SourceUnit) (symbol : Symbol) (methods : List Symbol) :
    (ToolAnswer.class unit symbol methods).toJson.AgreeOn ["name", "type", "lines"]
      symbol.summary := by
  simp [Json.AgreeOn, ToolAnswer.toJson, Symbol.summary, Json.field?_ofFields, List.lookup_cons]

/-- A method of a class is shown with the name, lines and signature of its entry in a
listing. -/
theorem methodSummary_agreeOn (symbol : Symbol) :
    symbol.methodSummary.AgreeOn ["name", "lines", "signature"] symbol.summary := by
  simp [Json.AgreeOn, Symbol.methodSummary, Symbol.summary, Json.field?_ofFields, List.lookup_cons]

/-- The three look-ups of a file agree with its listing, each from whatever caches the
engine can be in. The tools for functions and for signatures succeed exactly when a function
or method with the name is listed, and the tool for classes exactly when a class, struct,
interface or enumeration with the name is; each shows the first such entry as the listing
does. The methods of a class are the listed methods whose parent has the name, in order. It
is assumed that SHA-256 does not collide on what was hashed before and what the tools hash,
and that no identity holds a zero character. -/
theorem symbol_tools_agree (engine : Engine) (path name : String) (hashed others : List Source)
    (caches elsewhere : Caches) (reached : Reached engine.config engine.analyzer hashed caches)
    (alsoReached : Reached engine.config engine.analyzer others elsewhere)
    (separated : Sha256.Separates
      ((hashed ++ others ++ engine.outlineSources path).map Source.message))
    (plain : ∀ source ∈ hashed ++ others ++ engine.outlineSources path, source.Plain)
    (request : Json) (asked : Arguments.text request "file_path" = .ok path) :
    let listing := ((engine.call request .symbols).run.run elsewhere).1
    (∀ arguments, Arguments.text arguments "file_path" = .ok path →
      Arguments.text arguments "function_name" = .ok name →
      Agrees ((engine.call arguments .function).run.run caches).1 listing
        (fun symbol => symbol.kind.isCallable && symbol.name = name)
        (fun answer _ first =>
          (∃ unit, engine.load path none = .ok unit ∧ answer = .function unit first) ∧
          answer.toJson.AgreeOn ["name", "type", "lines", "parent"] first.summary) ∧
      Agrees ((engine.call arguments .signature).run.run caches).1 listing
        (fun symbol => symbol.kind.isCallable && symbol.name = name)
        (fun answer _ first => answer = .signature first ∧
          answer.toJson.AgreeOn ["name", "lines", "signature"] first.summary)) ∧
    (∀ arguments, Arguments.text arguments "file_path" = .ok path →
      Arguments.text arguments "class_name" = .ok name →
      Agrees ((engine.call arguments .class).run.run caches).1 listing
        (fun symbol => symbol.kind.isClassLike && symbol.name = name)
        (fun answer listed first =>
          let methods := listed.filter fun symbol =>
            symbol.kind = .method && symbol.parent = some name
          (∃ unit, engine.load path none = .ok unit ∧ answer = .class unit first methods) ∧
          answer.toJson.AgreeOn ["name", "type", "lines"] first.summary ∧
          answer.toJson.field? "methods" = some (.array (methods.map Symbol.methodSummary)) ∧
          ∀ method ∈ methods,
            method.methodSummary.AgreeOn ["name", "lines", "signature"] method.summary)) := by
  intro listing
  have apart := Source.apart_of_separates separated plain
  obtain ⟨earlier, listed⟩ := List.append_subset.mp (List.Subset.refl
    (hashed ++ others ++ engine.outlineSources path))
  obtain ⟨before, beside⟩ := List.append_subset.mp earlier
  have sound := reached.sound apart before
  have lists : listing = (engine.fileOutline path path).map fun found => .symbols found.2 :=
    (call_symbols_yields apart listed asked elsewhere (alsoReached.sound apart beside)).1
  refine ⟨fun arguments file wanted => ⟨?_, ?_⟩, fun arguments file wanted => ?_⟩
  · rw [lists, (call_function_yields apart listed file wanted caches sound).1]
    apply (lookUp_agrees engine path _ _ _).imp
    rintro _ _ first ⟨unit, loaded, rfl⟩
    exact ⟨⟨unit, loaded, rfl⟩, function_agreeOn unit first⟩
  · rw [lists, (call_signature_yields apart listed file wanted caches sound).1]
    apply (lookUp_agrees engine path _ _ _).imp
    rintro _ _ first ⟨_, _, rfl⟩
    exact ⟨rfl, signature_agreeOn first⟩
  · rw [lists, (call_class_yields apart listed file wanted caches sound).1]
    apply (lookUp_agrees engine path _ _ _).imp
    rintro _ _ first ⟨unit, loaded, rfl⟩
    refine ⟨⟨unit, loaded, rfl⟩, class_agreeOn unit first _, ?_, ?_⟩
    · simp [ToolAnswer.toJson, Json.field?_ofFields]
    · exact fun method _ => methodSummary_agreeOn method

/-- An engine to which every path leads to a Python text with one class. -/
def soleFile : Engine := { ofTree soleTree with source := fun _ _ => .ok soleUnit.text.toUTF8 }

/-- Arguments for every symbol tool. -/
def soleArguments : Json :=
  .ofFields [("file_path", .string "a.py"), ("function_name", .string "f"),
    ("class_name", .string "A")]

/-- A new engine shows the class of that text with its method. -/
theorem symbol_tools_agree_sole :
    ((soleFile.call soleArguments .class).run.run soleFile.freshCaches).1 =
      .ok (.class soleUnit (soleSymbols.get ⟨0, by decide⟩)
        [soleSymbols.get ⟨1, by decide⟩]) := by
  have file : Arguments.text soleArguments "file_path" = .ok "a.py" := rfl
  have loaded : soleFile.load "a.py" none = .ok soleUnit := by
    have read : (soleFile.load "a.py" none).toOption = some soleUnit := by decide +kernel
    cases load : soleFile.load "a.py" none with
    | error error => simp [load, Except.toOption] at read
    | ok unit => simpa [load, Except.toOption] using read
  have sources : soleFile.outlineSources "a.py" =
      [⟨"a.py", soleUnit⟩, ⟨inlineIdentity, soleUnit⟩] := by
    unfold outlineSources
    rw [loaded]
    rfl
  have separated : Sha256.Separates
      (([] ++ [] ++ soleFile.outlineSources "a.py").map Source.message) := by
    rw [sources]
    decide +kernel
  have plain : ∀ source ∈ [] ++ [] ++ soleFile.outlineSources "a.py", source.Plain := by
    rw [sources]
    decide +kernel
  have started : Reached soleFile.config soleFile.analyzer [] soleFile.freshCaches := .fresh
  obtain ⟨_, agree⟩ := symbol_tools_agree soleFile "a.py" "A" [] [] _ _ started started
    separated plain soleArguments file
  have classes := agree soleArguments file rfl
  -- The listing is that of the text, so a class is found in it.
  have listing : ((soleFile.call soleArguments .symbols).run.run soleFile.freshCaches).1 =
      .ok (.symbols soleSymbols) := by
    have apart := Source.apart_of_separates separated plain
    have outlined : soleFile.analyzer.outlined "a.py" soleUnit = .ok soleSymbols :=
      Analyzer.outlined_eq_ok.mpr ⟨rfl, congrArg some symbols_sole⟩
    rw [(call_symbols_yields apart (List.Subset.refl _) file _
      (started.sound apart (List.nil_subset _))).1]
    unfold fileOutline
    simp only [loaded, outlined]
    rfl
  obtain ⟨answer, done⟩ := classes.succeeds.mpr
    ⟨soleSymbols, listing, soleSymbols.get ⟨0, by decide⟩, by decide, by decide⟩
  obtain ⟨listed, first, lists, chosen, ⟨unit, again, rfl⟩, _⟩ := classes.reports answer done
  cases lists.symm.trans listing
  cases loaded.symm.trans again
  cases chosen
  exact done

end Engine

end CodeAtlas
