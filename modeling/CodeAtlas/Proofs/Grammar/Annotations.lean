import CodeAtlas.Proofs.Grammar.Parameters

/-!
# Annotations and their marks

In some languages the node of a type begins with the mark that introduces it, a colon or an
arrow. The mark is taken off the front of every annotation that is read by its field, also in
languages whose nodes hold the type alone. So a type is reported as it is written exactly when
it does not begin with such a mark; a path from the root begins with one.
-/

namespace CodeAtlas

/-- What introduces an annotation. -/
def annotationMarks : List String := ["->", ":"]

/-- Whether a text, apart from white space around it, begins with what introduces an
annotation. -/
def IsMarked (text : String) : Prop :=
  ∃ mark ∈ annotationMarks, ∃ rest, Text.trim text = mark ++ rest

variable {text : String}

/-- Of a text that begins with a mark, what follows the mark is the annotation. -/
theorem stripAnnotation_of_mark {mark rest : String} (listed : mark ∈ annotationMarks)
    (begins : Text.trim text = mark ++ rest) : stripAnnotation text = Text.trim rest := by
  unfold stripAnnotation
  simp only
  rw [begins]
  obtain rfl | rfl : mark = "->" ∨ mark = ":" := by simpa [annotationMarks] using listed
  · rw [Text.stripPrefix?_eq_some.mpr rfl]
    rfl
  · have other : ¬"->".toList <+: (":" ++ rest).toList := by simp
    rw [Text.stripPrefix?_eq_none.mpr other, Text.stripPrefix?_eq_some.mpr rfl]
    rfl

/-- A text without a mark is the annotation, trimmed. -/
theorem stripAnnotation_of_unmarked (unmarked : ¬IsMarked text) :
    stripAnnotation text = Text.trim text := by
  have none (mark : String) (listed : mark ∈ annotationMarks) :
      Text.stripPrefix? mark (Text.trim text) = none := by
    rw [Option.eq_none_iff_forall_ne_some]
    exact fun rest found =>
      unmarked ⟨mark, listed, rest, Text.stripPrefix?_eq_some.mp found⟩
  unfold stripAnnotation
  simp only
  rw [none "->" (by decide), none ":" (by decide)]
  exact Text.trim_trim text

/-- Whether an annotation is a text as it is written, unless the text has a mark in front. Then
it is what follows the mark. -/
structure WithoutMark (text annotation : String) : Prop where
  whole : annotation = Text.trim text ↔ ¬IsMarked text
  rest : ∀ mark ∈ annotationMarks, ∀ rest, Text.trim text = mark ++ rest →
    annotation = Text.trim rest

/-- What is stripped of a text to get its annotation is a mark in front. -/
theorem stripAnnotation_withoutMark (text : String) :
    WithoutMark text <| stripAnnotation text where
  whole := by
    constructor
    · rintro same ⟨mark, listed, rest, begins⟩
      rw [stripAnnotation_of_mark listed begins, begins] at same
      have shorter : (Text.trim rest).toList.length ≤ rest.toList.length := by
        rw [Text.trim, String.toList_ofList]
        exact (Chars.trim_infix _).length_le
      have marksVisible : ∀ mark ∈ annotationMarks, 0 < mark.toList.length := by decide
      have visible := marksVisible mark listed
      rw [same, String.toList_append, List.length_append] at shorter
      omega
    · exact stripAnnotation_of_unmarked
  rest _ listed _ := stripAnnotation_of_mark listed

namespace Grammar

/-! ## Parameters with a type -/

/-- Whether an entry of a parameter list is a parameter with a type in a field of its own: it
is no bare identifier, does not take the rest of the arguments, and has a name. In C# only
nodes of one kind are parameters with fields. -/
structure TypedEntry (language : Language) (source : String) (entry type : Node) : Prop where
  typed : entry.child? "type" = some type
  fields : Text.endsWith "identifier" entry.kind = false
  single : entry.takesRest = false
  named : Text.isBlank (entry.entryName source) = false
  kind : language = .cSharp → entry.kind = "parameter"

/-- The languages whose nodes of types hold the type alone. -/
def plainTyped : List Language := [.rust, .cpp, .java, .cSharp]

variable {language : Language} {source : String} {entry type : Node}

/-- There the parameters of a declaration are those of its list. -/
theorem parameters_of_plainTyped (plain : language ∈ plainTyped) (node : Node) :
    language.grammar.parameters source node =
      ((language.grammar.parameterList node).map
        (listParameters Node.isComment (language.grammar.parameter source))).getD [] := by
  cases language with
  | javaScript | typeScript | tsx => exact absurd plain (by decide)
  | _ => rfl

/-- Such an entry is read as a parameter whose type is stripped of its mark. -/
theorem TypedEntry.fieldParameter? (entered : TypedEntry language source entry type) :
    ∃ read, fieldParameter? source entry = some read ∧
      read.typeText = (some <| stripAnnotation (type.text source)) := by
  rw [fieldParameter?_of_fields entered.fields, if_neg (by simp [entered.named])]
  exact ⟨_, rfl, by simp [entered.single, entered.typed]⟩

/-- Such an entry declares one parameter, whose type is stripped of its mark. -/
theorem TypedEntry.exists_parameter (entered : TypedEntry language source entry type)
    (plain : language ∈ plainTyped) :
    ∃ parameter, (∀ before, language.grammar.parameter source before entry = [parameter]) ∧
      parameter.typeText = (some <| stripAnnotation (type.text source)) := by
  obtain ⟨read, found, typeText⟩ := entered.fieldParameter?
  have single : (CodeAtlas.fieldParameter? source entry).toList = [read] := by
    rw [found, Option.toList_some]
  obtain rfl | rfl | rfl | rfl :
      language = .rust ∨ language = .cpp ∨ language = .java ∨ language = .cSharp := by
    simpa [plainTyped] using plain
  · exact ⟨read, fun _ => single, typeText⟩
  · refine ⟨{ read with name := Cpp.unmarked read.name }, fun before => ?_, typeText⟩
    change Cpp.parameter source before entry = _
    rw [Cpp.parameter, found, Option.map_some, Option.toList_some]
    rfl
  · exact ⟨read, fun _ => single, typeText⟩
  · let clause? := entry.namedChildren.find? fun child => child.kind = "equals_value_clause"
    let defaultValue := (clause?.bind Node.firstNamed?).map (Node.text source)
    refine ⟨{ read with defaultValue }, fun before => ?_, typeText⟩
    change CSharp.parameter source before entry = [{ read with defaultValue }]
    rw [CSharp.parameter, entered.kind rfl]
    simp only [found, Option.map_some, Option.toList_some]
    rfl

/-! ## Return types -/

/-- A return type in Rust is stripped of its mark. -/
theorem Rust.returnType_eq_some {node : Node} (returned : node.child? "return_type" = some type) :
    rust.returnType source node = (some <| stripAnnotation (type.text source)) := by
  change (node.child? "return_type").map (fun type => stripAnnotation (type.text source)) = _
  rw [returned, Option.map_some]

end Grammar

end CodeAtlas
