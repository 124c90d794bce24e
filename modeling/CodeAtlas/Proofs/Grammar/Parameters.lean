import CodeAtlas.Proofs.Grammar.Headers
import CodeAtlas.Proofs.Grammar.Names

/-!
# Names of parameters

Every parameter is named by a text of the tree: that of an entry of the parameter list, of a
child in one of its fields, or of its first identifier. Where these texts are visible, no
parameter has a blank name, with one exception. In C++ the marks of pointers and references
are taken off the front of a name, and a parameter that is written without a name but with
such marks is left with nothing.
-/

namespace CodeAtlas

/-! ## Entries read by their fields -/

/-- Whether an entry takes the rest of the arguments. -/
def Node.takesRest (entry : Node) : Bool :=
  restMarkers.any fun marker => Text.contains marker entry.kind

/-- The text that names an entry: that of the first field with a name, of its first
identifier, or its own. Only its own names an entry that takes the rest of the arguments. -/
def Node.entryName (source : String) (entry : Node) : String :=
  if entry.takesRest then entry.text source
  else
    (((entry.firstChild? ["name", "pattern", "left", "declarator"]).map (Node.text source)).orElse
      fun _ => entry.firstIdentifier? source).getD (entry.text source)

variable {source : String} {entry : Node} {parameter : Parameter}

/-- A bare identifier is a parameter of that name. -/
theorem fieldParameter?_of_identifier
    (identifier : Text.endsWith "identifier" entry.kind = true) :
    fieldParameter? source entry = some { name := entry.text source } := by
  unfold fieldParameter?
  rw [if_pos identifier]

/-- An entry that is no bare identifier is a parameter unless its name would be blank. -/
theorem fieldParameter?_of_fields
    (fields : Text.endsWith "identifier" entry.kind = false) :
    fieldParameter? source entry =
      if Text.isBlank (entry.entryName source) then none
      else some {
        name := entry.entryName source
        typeText :=
          if entry.takesRest then none
          else (entry.child? "type").map fun type => stripAnnotation (type.text source)
        defaultValue :=
          (entry.firstChild? ["value", "default_value", "right"]).map (Node.text source) } := by
  unfold fieldParameter? Node.entryName Node.takesRest
  rw [fields]
  cases restMarkers.any fun marker => Text.contains marker entry.kind <;> rfl

/-- A parameter that is read from an entry is named by the entry's text, or by a text that is
not blank. -/
theorem name_of_fieldParameter? (found : fieldParameter? source entry = some parameter) :
    (Text.endsWith "identifier" entry.kind = true ∧ parameter.name = entry.text source) ∨
      Text.isBlank parameter.name = false := by
  cases identifier : Text.endsWith "identifier" entry.kind with
  | true =>
    rw [fieldParameter?_of_identifier identifier] at found
    cases found
    exact .inl ⟨rfl, rfl⟩
  | false =>
    rw [fieldParameter?_of_fields identifier] at found
    split at found
    · cases found
    · rename_i visible
      cases found
      exact .inr (Bool.eq_false_iff.mpr visible)

/-! ## Entries of parameter lists -/

/-- Whether every parameter that a grammar finds is one of an entry below the declaration. -/
def Grammar.EntriesBelow (grammar : Grammar) : Prop :=
  ∀ source node, ∀ parameter ∈ grammar.parameters source node,
    ∃ entry ∈ node.preorder, ∃ before, parameter ∈ grammar.parameter source before entry

/-- Every entry that is listed with the nodes before it is one of the nodes. -/
theorem mem_of_mem_withBefore {before nodes : List Node} {listed : List Node × Node}
    (member : listed ∈ withBefore before nodes) : listed.2 ∈ nodes := by
  induction nodes generalizing before with
  | nil => cases member
  | cons node nodes ih =>
    obtain rfl | later := List.mem_cons.mp member
    · exact List.mem_cons_self
    · exact List.mem_cons_of_mem node (ih later)

/-- Every one of the nodes is listed with the nodes before it. -/
theorem exists_mem_withBefore (before : List Node) {nodes : List Node} {node : Node}
    (member : node ∈ nodes) : ∃ earlier, (earlier, node) ∈ withBefore before nodes := by
  induction nodes generalizing before with
  | nil => cases member
  | cons first nodes ih =>
    obtain rfl | later := List.mem_cons.mp member
    · exact ⟨before, List.mem_cons_self⟩
    · obtain ⟨earlier, listed⟩ := ih (first :: before) later
      exact ⟨earlier, List.mem_cons_of_mem _ listed⟩

/-- What a named entry declares, whatever comes before it, is a parameter of its list. -/
theorem mem_listParameters {isComment : Node → Bool}
    {find : List Node → Node → List Parameter} {list : Node} (member : entry ∈ list.children)
    (named : entry.named = true) (code : isComment entry = false)
    (declared : ∀ before, parameter ∈ find before entry) :
    parameter ∈ listParameters isComment find list := by
  obtain ⟨before, listed⟩ := exists_mem_withBefore [] member
  refine List.mem_flatMap.mpr ⟨(before, entry), List.mem_filter.mpr ⟨listed, ?_⟩, declared before⟩
  simp [named, code]

/-- A parameter of a list is one of an entry in it. -/
theorem exists_entry {isComment : Node → Bool} {find : List Node → Node → List Parameter}
    {list : Node} (member : parameter ∈ listParameters isComment find list) :
    ∃ entry ∈ list.children, ∃ before, parameter ∈ find before entry := by
  obtain ⟨⟨before, entry⟩, kept, found⟩ := List.mem_flatMap.mp member
  exact ⟨entry, mem_of_mem_withBefore (List.mem_filter.mp kept).1, before, found⟩

/-- A parameter of a declaration is one of an entry below it, if the list is below it. -/
theorem exists_entry_below {isComment : Node → Bool} {find : List Node → Node → List Parameter}
    {node : Node} {list? : Option Node} (below : ∀ list ∈ list?, list ∈ node.preorder)
    (member : parameter ∈ (list?.map (listParameters isComment find)).getD []) :
    ∃ entry ∈ node.preorder, ∃ before, parameter ∈ find before entry := by
  cases found : list? with
  | none => simp [found] at member
  | some list =>
    rw [found] at member
    obtain ⟨entry, listed, inside⟩ := exists_entry member
    exact ⟨entry, Node.preorder_subset (below list found)
      (Node.mem_preorder_of_mem_children listed), inside⟩

/-! ## Visible names -/

/-- Whether the nodes that name parameters show text: identifiers, what stands in the field of
a name, a type or a single parameter, and the first named child of a typed parameter. -/
structure Node.Legible (tree : Node) (source : String) : Prop where
  identifier : ∀ node ∈ tree.preorder, Text.endsWith "identifier" node.kind = true →
    Text.isBlank (node.text source) = false
  field : ∀ node ∈ tree.preorder, node.field ∈ ["name", "type", "parameter"] →
    Text.isBlank (node.text source) = false
  typed : ∀ node ∈ tree.preorder, node.kind = "typed_parameter" →
    ∃ first ∈ node.firstNamed?, Text.isBlank (first.text source) = false

/-- Whether these nodes show text is decidable. -/
instance (tree : Node) (source : String) : Decidable (tree.Legible source) :=
  decidable_of_iff
    ((∀ node ∈ tree.preorder, Text.endsWith "identifier" node.kind = true →
      Text.isBlank (node.text source) = false) ∧
    (∀ node ∈ tree.preorder, node.field ∈ ["name", "type", "parameter"] →
      Text.isBlank (node.text source) = false) ∧
    ∀ node ∈ tree.preorder, node.kind = "typed_parameter" →
      ∃ first ∈ node.firstNamed?, Text.isBlank (first.text source) = false)
    ⟨fun all => ⟨all.1, all.2.1, all.2.2⟩,
      fun legible => ⟨legible.identifier, legible.field, legible.typed⟩⟩

/-- The text of a child in such a field is visible. -/
theorem Node.Legible.child {tree node child : Node} (legible : tree.Legible source)
    (member : node ∈ tree.preorder) {field : String} (found : node.child? field = some child)
    (named : field ∈ ["name", "type", "parameter"]) : Text.isBlank (child.text source) = false := by
  have inside := Node.preorder_subset member (Node.mem_preorder_of_child? found)
  rw [← Node.field_of_child? found] at named
  exact legible.field child inside named

/-- An entry that is read by its fields is named visibly. -/
theorem Node.Legible.fieldParameter {tree : Node} (legible : tree.Legible source)
    (member : entry ∈ tree.preorder) (found : fieldParameter? source entry = some parameter) :
    Text.isBlank parameter.name = false := by
  obtain ⟨identifier, name⟩ | visible := name_of_fieldParameter? found
  · rw [name]
    exact legible.identifier entry member identifier
  · exact visible

namespace Grammar

/-- Whether a grammar names the parameter of every entry of a legible tree visibly. -/
def VisibleEntries (grammar : Grammar) : Prop :=
  ∀ (source : String) (tree : Node), tree.Legible source → ∀ entry ∈ tree.preorder, ∀ before,
    ∀ parameter ∈ grammar.parameter source before entry, Text.isBlank parameter.name = false

/-- Whether a grammar names every parameter of a legible tree visibly. -/
def VisibleParameters (grammar : Grammar) : Prop :=
  ∀ (source : String) (tree : Node), tree.Legible source → ∀ node ∈ tree.preorder,
    ∀ parameter ∈ grammar.parameters source node, Text.isBlank parameter.name = false

/-- Visible names of entries are visible names of parameters. -/
theorem VisibleEntries.parameters {grammar : Grammar} (visible : grammar.VisibleEntries)
    (below : grammar.EntriesBelow) : grammar.VisibleParameters := by
  intro source tree legible node member parameter listed
  obtain ⟨entry, inside, before, found⟩ := below source node parameter listed
  exact visible source tree legible entry (Node.preorder_subset member inside) before parameter
    found

/-- An entry that is read by its fields has its one parameter. -/
theorem visible_of_fields {tree : Node} (legible : tree.Legible source)
    (member : entry ∈ tree.preorder) (listed : parameter ∈ (fieldParameter? source entry).toList) :
    Text.isBlank parameter.name = false :=
  legible.fieldParameter member (Option.mem_toList.mp listed)

/-! ### The parameters of each language -/

/-- Parameters in Rust are named visibly. -/
theorem rust_visible : rust.VisibleParameters := by
  refine VisibleEntries.parameters ?_ fun _ _ _ =>
    exists_entry_below fun _ => Node.mem_preorder_of_child?
  exact fun _ _ legible _ member _ _ => visible_of_fields legible member

/-- Parameters in Java are named visibly. -/
theorem java_visible : java.VisibleParameters := by
  refine VisibleEntries.parameters ?_ fun _ _ _ =>
    exists_entry_below fun _ => Node.mem_preorder_of_child?
  exact fun _ _ legible _ member _ _ => visible_of_fields legible member

/-- Parameters in Python are named visibly. A typed one goes by its first named child. -/
theorem python_visible : python.VisibleParameters := by
  refine VisibleEntries.parameters ?_ fun _ _ _ =>
    exists_entry_below fun _ => Node.mem_preorder_of_child?
  intro source tree legible entry member before parameter listed
  change parameter ∈ Python.parameter source before entry at listed
  unfold Python.parameter at listed
  split at listed
  · cases listed
  · cases listed
  · rename_i typed
    obtain ⟨first, found, visible⟩ := legible.typed entry member typed
    rw [Option.mem_def.mp found] at listed
    cases List.mem_singleton.mp listed
    exact visible
  · exact visible_of_fields legible member listed

/-- Parameters in Go are named visibly: by their names, or by their type where they have no
name. -/
theorem go_visible : go.VisibleParameters := by
  refine VisibleEntries.parameters ?_ fun _ _ _ =>
    exists_entry_below fun _ => Node.mem_preorder_of_child?
  intro source tree legible entry member before parameter listed
  change parameter ∈ Go.parameter source before entry at listed
  unfold Go.parameter at listed
  simp only at listed
  split at listed
  · obtain ⟨text, written, rfl⟩ := Option.map_eq_some_iff.mp (Option.mem_toList.mp listed)
    split at written
    · -- Dots stand in front of the type of a parameter that takes the rest.
      obtain ⟨type, _, rfl⟩ := Option.map_eq_some_iff.mp written
      simp [Text.isBlank, String.toList_append, isBlankChar, blankRanges]
    · obtain ⟨type, found, rfl⟩ := Option.map_eq_some_iff.mp written
      exact legible.child member found (by decide)
  · obtain ⟨name, inside, rfl⟩ := List.mem_map.mp listed
    obtain ⟨child, field⟩ := List.mem_filter.mp inside
    have below := Node.preorder_subset member (Node.mem_preorder_of_mem_children child)
    exact legible.field name below (by simp [of_decide_eq_true field])

/-- Parameters in C# are named visibly. -/
theorem cSharp_visible : cSharp.VisibleParameters := by
  refine VisibleEntries.parameters ?_ fun _ _ _ =>
    exists_entry_below fun _ => Node.mem_preorder_of_child?
  intro source tree legible entry member before parameter listed
  change parameter ∈ CSharp.parameter source before entry at listed
  unfold CSharp.parameter at listed
  split at listed
  · simp only [Option.mem_toList, Option.map_eq_some_iff] at listed
    obtain ⟨written, found, rfl⟩ := listed
    have visible := legible.fieldParameter member found
    exact visible
  · rename_i identifier
    cases List.mem_singleton.mp listed
    exact legible.identifier entry member (by rw [identifier]; decide)
  · cases listed

/-- Parameters in JavaScript and TypeScript are named visibly. -/
theorem ecmaScript_visible (typed : Bool) : (ecmaScript typed).VisibleParameters := by
  intro source tree legible node member parameter listed
  have carrier := Node.preorder_subset member (carrier_mem_preorder node)
  change parameter ∈ EcmaScript.parameters source node at listed
  unfold EcmaScript.parameters at listed
  split at listed
  · rename_i single found
    cases List.mem_singleton.mp listed
    exact legible.child carrier found (by decide)
  · obtain ⟨entry, inside, _, read⟩ :=
      exists_entry_below (fun _ => Node.mem_preorder_of_child?) listed
    exact visible_of_fields legible (Node.preorder_subset carrier inside) read

namespace Cpp

/-- Whether a text is made of marks of pointers and references, with nothing but white space
after them. -/
def OnlyMarks (text : String) : Prop :=
  ∃ marks blanks, text.toList = marks ++ blanks ∧ (∀ c ∈ marks, c = '*' ∨ c = '&') ∧
    ∀ c ∈ blanks, isBlankChar c = true

/-- A name without the marks in front of it. -/
def unmarked (name : String) : String :=
  Text.trim (String.ofList (name.toList.dropWhile (['*', '&'].contains ·)))

/-- Nothing is left of a name that has only marks, and of no other. -/
theorem unmarked_eq_empty_iff (name : String) : unmarked name = "" ↔ OnlyMarks name := by
  unfold unmarked
  rw [Text.trim_eq_empty_iff, Text.isBlank, List.all_eq_true, String.toList_ofList]
  constructor
  · intro blank
    refine ⟨_, _, List.takeWhile_append_dropWhile.symm, fun c member => ?_, blank⟩
    simpa using List.mem_takeWhile_imp member
  · rintro ⟨marks, blanks, parts, marked, blank⟩
    rw [parts, List.dropWhile_append_of_pos (by simpa using marked)]
    exact fun c member => blank c ((List.dropWhile_suffix _).subset member)

/-- A parameter in C++ is read from an entry by its fields, and then named without marks. -/
theorem exists_written {node : Node} (listed : parameter ∈ cpp.parameters source node) :
    ∃ entry ∈ node.preorder, ∃ written, fieldParameter? source entry = some written ∧
      parameter = { written with name := unmarked written.name } := by
  have below : ∀ list ∈ cpp.parameterList node, list ∈ node.preorder := by
    intro list found
    obtain ⟨declarator, chain, field⟩ := Option.bind_eq_some_iff.mp found
    exact Node.preorder_subset (mem_preorder_of_mem_declarators (List.mem_of_find?_eq_some chain))
      (Node.mem_preorder_of_child? field)
  obtain ⟨entry, inside, _, read⟩ := exists_entry_below below listed
  obtain ⟨written, found, same⟩ := Option.map_eq_some_iff.mp (Option.mem_toList.mp read)
  exact ⟨entry, inside, written, found, same.symm⟩

end Cpp

end Grammar

namespace Language

/-- Outside C++, parameters are named visibly in every language. -/
theorem visibleParameters {language : Language} (other : language ≠ .cpp) :
    language.grammar.VisibleParameters := by
  cases language with
  | python => exact Grammar.python_visible
  | javaScript => exact Grammar.ecmaScript_visible false
  | typeScript => exact Grammar.ecmaScript_visible true
  | tsx => exact Grammar.ecmaScript_visible true
  | rust => exact Grammar.rust_visible
  | go => exact Grammar.go_visible
  | java => exact Grammar.java_visible
  | cpp => exact absurd rfl other
  | cSharp => exact Grammar.cSharp_visible

end Language

end CodeAtlas
