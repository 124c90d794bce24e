import CodeAtlas.Proofs.Caches.Recall
import CodeAtlas.Proofs.Outline.Members

/-!
# Classes and their methods

A class is looked up by its name, and its methods by the name of their parent. The two
look-ups see the same listing, and outside Rust every method lies in some listed symbol of
that name. It lies in the class that was found when no other symbol of the name stands
elsewhere in the text; a class in another scope that shares the name lends its methods.
-/

namespace CodeAtlas

namespace Engine

variable {engine : Engine} {unit : SourceUnit} {name : String} {caches after : Caches}

/-- A look-up that succeeds has chosen from a listing. -/
theorem lookup_eq_ok {α : Type} {choose : List Symbol → α} {chosen : α}
    (done : Analysis.runFrom (do return choose (← engine.extractSymbols unit)) caches =
      (.ok chosen, after)) :
    ∃ listed, (engine.extractSymbols unit).runFrom caches = (.ok listed, after) ∧
      choose listed = chosen := by
  obtain ⟨listed, _, extracted, returned⟩ := Analysis.runFrom_bind_eq_ok done
  cases returned
  exact ⟨listed, extracted, rfl⟩

/-- A look-up chooses from the listing. -/
theorem lookup_of_listed {α : Type} {listed : List Symbol} (choose : List Symbol → α)
    (extracted : (engine.extractSymbols unit).runFrom caches = (.ok listed, after)) :
    Analysis.runFrom (do return choose (← engine.extractSymbols unit)) caches =
      (.ok (choose listed), after) := by
  rw [Analysis.runFrom_bind_ok extracted]
  rfl

/-- Outside Rust, a method that is found for a name lies inside a listed symbol of that
name which opens a scope. -/
theorem method_encloses (other : unit.language ≠ .rust) {listed : List Symbol}
    (extracted : (engine.extractSymbols unit).runFrom caches = (.ok listed, after))
    {method : Symbol} (member : method ∈ listed.filter fun symbol =>
      symbol.kind = .method && symbol.parent = some name) :
    ∃ owner ∈ listed, owner.name = name ∧ owner.kind.canEnclose = true ∧
      owner.contains method = true := by
  obtain ⟨parsed, _, _, rfl⟩ := Analyzer.symbols_eq_ok extracted
  obtain ⟨present, fits⟩ := List.mem_filter.mp member
  have child : method.parent = some name := by
    rw [Bool.and_eq_true, decide_eq_true_eq, decide_eq_true_eq] at fits
    exact fits.2
  exact Outline.symbols_encloses other present child

/-- Outside Rust, once a class is found for a name, the methods of that name can be found.
Each of them lies strictly inside some listed symbol of the name that opens a scope. If all
of these symbols are inside the class, then so are the methods. -/
theorem methodsOf_found_class (engine : Engine) (unit : SourceUnit) (name : String)
    (other : unit.language ≠ .rust) (caches after : Caches) (found : Symbol)
    (looked : (engine.extractClass unit name).runFrom caches = (.ok (some found), after)) :
    ∃ listed methods,
      (engine.extractSymbols unit).runFrom caches = (.ok listed, after) ∧
      (engine.methodsOf unit name).runFrom after = (.ok methods, after) ∧
      found ∈ listed ∧ found.name = name ∧ found.kind.isClassLike = true ∧
      (∀ method ∈ methods, ∃ owner ∈ listed, owner.name = name ∧
        owner.kind.canEnclose = true ∧ owner.contains method = true) ∧
      ((∀ owner ∈ listed, owner.name = name → owner.kind.canEnclose = true →
          found.startByte ≤ owner.startByte ∧ owner.endByte ≤ found.endByte) →
        ∀ method ∈ methods,
          found.startByte ≤ method.startByte ∧ method.endByte ≤ found.endByte) := by
  obtain ⟨listed, extracted, chosen⟩ := lookup_eq_ok looked
  have again := Analyzer.symbols_again extracted
  have fits := List.find?_some chosen
  rw [Bool.and_eq_true, decide_eq_true_eq] at fits
  refine ⟨listed, _, extracted, lookup_of_listed _ again, List.mem_of_find?_eq_some chosen,
    fits.2, fits.1, fun method member => method_encloses other extracted member, ?_⟩
  intro inside method member
  obtain ⟨owner, present, named, opens, around⟩ := method_encloses other extracted member
  obtain ⟨start, stop⟩ := inside owner present named opens
  simp only [Symbol.contains, Bool.and_eq_true, decide_eq_true_eq] at around
  omega

/-! ## One class and two classes of a name -/

/-- The definition in Python of a method whose name has one letter and whose body does
nothing, from an offset on. -/
def passMethod (start : Nat) : Node :=
  .mk "function_definition" true "" start (start + 17)
    [.mk "def" false "" start (start + 3) [],
     .mk "identifier" true "name" (start + 4) (start + 5) [],
     .mk "parameters" true "parameters" (start + 5) (start + 11)
      [.mk "(" false "" (start + 5) (start + 6) [],
       .mk "identifier" true "" (start + 6) (start + 10) [],
       .mk ")" false "" (start + 10) (start + 11) []],
     .mk ":" false "" (start + 11) (start + 12) [],
     .mk "block" true "body" (start + 13) (start + 17)
      [.mk "pass_statement" true "" (start + 13) (start + 17)
        [.mk "pass" false "" (start + 13) (start + 17) []]]]

/-- The definition in Python of a class whose name has one letter, from an offset on, with
one statement in its body. -/
def smallClass (start : Nat) (statement : Node) : Node :=
  .mk "class_definition" true "" start statement.stop
    [.mk "class" false "" start (start + 5) [],
     .mk "identifier" true "name" (start + 6) (start + 7) [],
     .mk ":" false "" (start + 7) (start + 8) [],
     .mk "block" true "body" statement.start statement.stop [statement]]

/-- An engine without files whose parser has one tree. -/
def ofTree (tree : Node) : Engine where
  config := {}
  analyzer := { parser := { knowsKind := fun _ _ => true, tree? := fun _ _ => some tree } }
  files := {}
  source path _ := .error (.notFound path)

/-- A new engine with one tree lists the outline of that tree. -/
theorem extractSymbols_ofTree (tree : Node) (unit : SourceUnit) :
    ∃ after, ((ofTree tree).extractSymbols unit).runFrom (ofTree tree).freshCaches =
      (.ok (Outline.symbols unit.language.grammar unit.text tree), after) := by
  have supported : (ofTree tree).analyzer.registry.supports unit.language = true := by
    cases unit.language <;> rfl
  exact Analyzer.symbols_of_absent inlineIdentity supported rfl rfl

/-- A Python text with one class. -/
def soleUnit : SourceUnit := ⟨.python, "class A:\n    def f(self): pass\n"⟩

/-- The tree of that text. -/
def soleTree : Node := .mk "module" true "" 0 31 [smallClass 0 (passMethod 13)]

/-- The class of that text and its method. -/
def soleSymbols : List Symbol :=
  [{ name := "A", kind := .class, startByte := 0, endByte := 30, startLine := 1, endLine := 2
     signature := "class A:" },
   { name := "f", kind := .method, startByte := 13, endByte := 30, startLine := 2, endLine := 2
     parent := some "A", parameters := [{ name := "self" }], signature := "def f(self):" }]

/-- They are the outline of that tree. -/
theorem symbols_sole :
    Outline.symbols soleUnit.language.grammar soleUnit.text soleTree = soleSymbols := by
  rw [Outline.symbols_of_sorted (by decide +kernel)]
  decide +kernel

/-- A new engine with that tree lists them. -/
theorem extractSymbols_sole :
    ∃ after, ((ofTree soleTree).extractSymbols soleUnit).runFrom (ofTree soleTree).freshCaches =
      (.ok soleSymbols, after) := by
  rw [← symbols_sole]
  exact extractSymbols_ofTree soleTree soleUnit

/-- The only class of a text has its own method. -/
theorem methodsOf_found_class_sole :
    ∃ found method after,
      ((ofTree soleTree).extractClass soleUnit "A").runFrom (ofTree soleTree).freshCaches =
        (.ok (some found), after) ∧
      ((ofTree soleTree).methodsOf soleUnit "A").runFrom after = (.ok [method], after) ∧
      found.startByte ≤ method.startByte ∧ method.endByte ≤ found.endByte := by
  obtain ⟨after, extracted⟩ := extractSymbols_sole
  have looked : ((ofTree soleTree).extractClass soleUnit "A").runFrom
      (ofTree soleTree).freshCaches = (.ok soleSymbols.head?, after) :=
    lookup_of_listed _ extracted
  obtain ⟨listed, methods, again, members, _, _, _, _, inside⟩ :=
    methodsOf_found_class (ofTree soleTree) soleUnit "A" (by decide) _ after _ looked
  cases extracted.symm.trans again
  have sole : methods = [soleSymbols.get ⟨1, by decide⟩] := by
    have listing := Analyzer.symbols_again extracted
    cases members.symm.trans (lookup_of_listed _ listing)
    rfl
  subst sole
  exact ⟨_, _, after, looked, members, inside (by decide) _ List.mem_cons_self⟩

/-- A Python text with a class, and a class of the same name inside another one. -/
def twinUnit : SourceUnit where
  language := .python
  text := "class A:\n    def f(self): pass\nclass B:\n    class A:\n        def g(self): pass\n"

/-- The tree of that text. -/
def twinTree : Node :=
  .mk "module" true "" 0 79
    [smallClass 0 (passMethod 13), smallClass 31 (smallClass 44 (passMethod 61))]

/-- The symbols of that text. -/
def twinSymbols : List Symbol :=
  soleSymbols ++
  [{ name := "B", kind := .class, startByte := 31, endByte := 78, startLine := 3, endLine := 5
     signature := "class B:" },
   { name := "A", kind := .class, startByte := 44, endByte := 78, startLine := 4, endLine := 5
     parent := some "B", signature := "class A:" },
   { name := "g", kind := .method, startByte := 61, endByte := 78, startLine := 5, endLine := 5
     parent := some "A", parameters := [{ name := "self" }], signature := "def g(self):" }]

/-- The method of the inner class is found for the outer class of the same name, which
ends long before it. -/
theorem methodsOf_found_class_twin :
    ∃ found methods after,
      ((ofTree twinTree).extractClass twinUnit "A").runFrom (ofTree twinTree).freshCaches =
        (.ok (some found), after) ∧
      ((ofTree twinTree).methodsOf twinUnit "A").runFrom after = (.ok methods, after) ∧
      ∃ method ∈ methods,
        ¬(found.startByte ≤ method.startByte ∧ method.endByte ≤ found.endByte) := by
  obtain ⟨after, extracted⟩ := extractSymbols_ofTree twinTree twinUnit
  have outline : Outline.symbols twinUnit.language.grammar twinUnit.text twinTree =
      twinSymbols := by
    rw [Outline.symbols_of_sorted (by decide +kernel)]
    decide +kernel
  rw [outline] at extracted
  have looked : ((ofTree twinTree).extractClass twinUnit "A").runFrom
      (ofTree twinTree).freshCaches = (.ok twinSymbols.head?, after) :=
    lookup_of_listed _ extracted
  have members : ((ofTree twinTree).methodsOf twinUnit "A").runFrom after =
      (.ok [twinSymbols.get ⟨1, by decide⟩, twinSymbols.get ⟨4, by decide⟩], after) :=
    lookup_of_listed _ (Analyzer.symbols_again extracted)
  exact ⟨_, _, after, looked, members, _, List.mem_cons_of_mem _ List.mem_cons_self, by decide⟩

end Engine

end CodeAtlas
