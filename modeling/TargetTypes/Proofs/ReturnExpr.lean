import TargetTypes.Proofs.Wrapping
import TargetTypes.ReturnType

/-!
# Return types by expression

The rules for returns work on names: a rule wraps a text, and the next one reads the wrapped
text again and boxes it again. Here they are one pass over the expression that the declared name
reads as, with each argument written once. The two agree on every name that is written as it is
read, and for the language without boxes that is every name.

    what rule 2 makes of the name is what it makes of the expression, written  (render_nullableExpr)
    rule 3 finds the same element in both                               (swappedList?_nullableName)
    rule 5 replaces both by the same primitive                             (render_primitiveExpr)
    both give the same type                                        (returnType_eq_returnTypeOfExpr)
-/

namespace TargetTypes.Language

/-! ## Algorithm -/

/-- Rule 2: what is neither list nor optional, nor begins as a foreign list, becomes optional. -/
def nullableExpr (lang : Language) (opts : Options) (mandatory : Bool) (name : Text) : TypeExpr :=
  let type := lang.parse name
  if opts.optionalReturns = true ∧ mandatory = false ∧ type.isList = false ∧
      type.isOptional = false ∧ ∀ start ∈ lang.foreignLists, ¬ start <+: name then
    .optional type none
  else type

/-- Rule 5: the table takes the schema type, mandatory and so marked, to a primitive. -/
def primitiveExpr (lang : Language) (opts : Options) (field : ReturnField) (type : TypeExpr) :
    TypeExpr :=
  match field.schemaType with
  | none => type
  | some schemaType =>
    match opts.customTypes.lookup (schemaType ++ "!") with
    | none => type
    | some target =>
      if field.mandatory = true ∧ field.primitiveAllowed = true ∧ schemaType ≠ [] ∧
          lang.lexicon.primitives.contains target = true then
        .primitive target
      else type

/-- Rules 2 to 5. -/
def otherReturnOfExpr (lang : Language) (opts : Options) (field : ReturnField) : Text :=
  let type := lang.nullableExpr opts field.mandatory field.name
  match Text.inForce? opts.returnListType, type with
  | some outer, .list inner _ => lang.lexicon.generic outer (inner.renderArgument lang.lexicon)
  | _, _ =>
    match Text.inForce? opts.returnType with
    | some outer => lang.lexicon.generic outer (type.renderArgument lang.lexicon)
    | none => lang.render (lang.primitiveExpr opts field type)

/-- The rules for returns, on the expression of the declared name. -/
def returnTypeOfExpr (lang : Language) (opts : Options) (field : ReturnField) (operation : Text) :
    Text :=
  match decide (operation.upper = "SUBSCRIPTION"), Text.inForce? opts.subscriptionType with
  | true, some outer =>
    lang.lexicon.generic outer ((lang.parse field.name).renderArgument lang.lexicon)
  | _, _ => lang.otherReturnOfExpr opts field

/-! ## Lemmas -/

/-- The expression becomes optional exactly where the name does. -/
theorem nullable_cases (lang : Language) (opts : Options) (mandatory : Bool) (name : Text) :
    (lang.nullableExpr opts mandatory name = lang.parse name ∧
        lang.nullableName opts mandatory name = name) ∨
      (lang.nullableExpr opts mandatory name = .optional (lang.parse name) none ∧
        lang.nullableName opts mandatory name = lang.optionalOf name) := by
  have hforeign : (∀ start ∈ lang.foreignLists, ¬ start <+: name) ↔
      (lang.foreignLists.any fun start => start.isPrefixOf name) = false := by
    simp
  by_cases hw : opts.optionalReturns = true ∧ mandatory = false ∧ (lang.parse name).isList = false ∧
      (lang.parse name).isOptional = false ∧ ∀ start ∈ lang.foreignLists, ¬ start <+: name
  · refine Or.inr ⟨if_pos hw, if_pos ?_⟩
    obtain ⟨ho, hm, hl, hopt, hf⟩ := hw
    simp only [isCollection, isOptional, ho, hm, hl, hopt, hforeign.mp hf]
    rfl
  · refine Or.inl ⟨if_neg hw, if_neg ?_⟩
    intro hc
    apply hw
    simp only [isCollection, isOptional, Bool.and_eq_true, Bool.not_eq_true', Bool.or_eq_false_iff]
      at hc
    obtain ⟨⟨⟨ho, hm⟩, hl, hf⟩, hopt⟩ := hc
    exact ⟨ho, hm, hl, hopt, hforeign.mpr hf⟩

theorem swappedList?_of_not_list {lang : Language} (opts : Options) {name : Text}
    (h : (lang.parse name).isList = false) : lang.swappedList? opts name = none := by
  unfold swappedList?
  split
  · next outer inner marker _ hp =>
    rw [hp] at h
    cases h
  · rfl

section

variable {lang : Language} (opts : Options) (mandatory : Bool) {name : Text}
  (hname : lang.render (lang.parse name) = name)

include hname

theorem renderIn_optional_parse (inGeneric : Bool) :
    (TypeExpr.optional (lang.parse name) none).renderIn lang.lexicon inGeneric =
      lang.optionalOf name := by
  rw [lang.legible.renderIn_optional inGeneric (by simp), lang.optionalOf_eq_enclose,
    box_eq_renderArgument hname]
  rfl

theorem render_nullableExpr :
    lang.render (lang.nullableExpr opts mandatory name) = lang.nullableName opts mandatory name := by
  rcases lang.nullable_cases opts mandatory name with ⟨he, hn⟩ | ⟨he, hn⟩
  · rw [he, hn, hname]
  · rw [he, hn]
    exact renderIn_optional_parse hname false

theorem renderArgument_nullableExpr :
    (lang.nullableExpr opts mandatory name).renderArgument lang.lexicon =
      lang.lexicon.box (lang.nullableName opts mandatory name) := by
  rcases lang.nullable_cases opts mandatory name with ⟨he, hn⟩ | ⟨he, hn⟩
  · rw [he, hn, box_eq_renderArgument hname]
  · rw [he, hn, lang.box_optionalOf]
    exact renderIn_optional_parse hname true

theorem wrappedReturn?_nullableName :
    lang.wrappedReturn? opts (lang.nullableName opts mandatory name) =
      (Text.inForce? opts.returnType).map fun outer =>
        lang.lexicon.generic outer
          ((lang.nullableExpr opts mandatory name).renderArgument lang.lexicon) := by
  rw [renderArgument_nullableExpr opts mandatory hname]
  rfl

end

/-- Rule 3 reads the text that rule 2 wrote; it finds the element that the expression has. -/
theorem swappedList?_nullableName (lang : Language) (opts : Options) (mandatory : Bool)
    (name : Text) :
    lang.swappedList? opts (lang.nullableName opts mandatory name) =
      match Text.inForce? opts.returnListType, lang.nullableExpr opts mandatory name with
      | some outer, .list inner _ =>
        some (lang.lexicon.generic outer (inner.renderArgument lang.lexicon))
      | _, _ => none := by
  rcases lang.nullable_cases opts mandatory name with ⟨he, hn⟩ | ⟨he, hn⟩
  · rw [he, hn]
    unfold swappedList?
    cases Text.inForce? opts.returnListType with
    | none => rfl
    | some outer =>
      cases hp : lang.parse name with
      | list inner marker =>
        have hw : (TypeExpr.list inner marker).WellFormed lang.lexicon := by
          rw [← hp]
          exact lang.legible.wellFormed_parse name
        show some (lang.lexicon.generic outer (lang.lexicon.box (inner.render lang.lexicon))) = _
        rw [lang.legible.box_render hw.2]
      | primitive _ | named _ | optional _ _ | bounded _ => rfl
  · rw [he, hn, swappedList?_of_not_list opts (lang.isList_parse_optionalOf name)]
    split
    · next hp => cases hp
    · rfl

theorem subscriptionType?_eq (opts : Options) (operation : Text) :
    subscriptionType? opts operation =
      match decide (operation.upper = "SUBSCRIPTION"), Text.inForce? opts.subscriptionType with
      | true, some outer => some outer
      | _, _ => none := by
  show (if operation.upper = "SUBSCRIPTION" then Text.inForce? opts.subscriptionType else none) = _
  by_cases hlabel : operation.upper = "SUBSCRIPTION"
  · rw [if_pos hlabel, decide_eq_true hlabel]
    cases Text.inForce? opts.subscriptionType <;> rfl
  · rw [if_neg hlabel, decide_eq_false hlabel]

theorem render_primitiveExpr (lang : Language) (opts : Options) (field : ReturnField)
    (type : TypeExpr) :
    lang.render (lang.primitiveExpr opts field type) =
      (lang.primitiveFor? opts field).getD (lang.render type) := by
  unfold primitiveExpr primitiveFor? mappedPrimitive?
  cases field.schemaType with
  | none => rfl
  | some schemaType =>
    have hasked : (field.mandatory && field.primitiveAllowed && !schemaType.isEmpty) = true ↔
        field.mandatory = true ∧ field.primitiveAllowed = true ∧ schemaType ≠ [] := by
      simp [and_assoc]
    simp only [hasked]
    cases opts.customTypes.lookup (schemaType ++ "!") with
    | none => simp
    | some target =>
      by_cases h : field.mandatory = true ∧ field.primitiveAllowed = true ∧ schemaType ≠ []
      · rw [if_pos h, Option.filter_some]
        simp only [h, ne_eq, not_false_eq_true, true_and]
        show lang.render (if lang.isPrimitive target = true then _ else _) = _
        cases lang.isPrimitive target <;> rfl
      · rw [if_neg h, Option.getD_none]
        exact congrArg lang.render (if_neg fun hall => h ⟨hall.1, hall.2.1, hall.2.2.1⟩)

/-! ## Both rules agree -/

theorem returnType_of_no_subscriptionType {lang : Language} {opts : Options} {field : ReturnField}
    {operation : Text} (h : subscriptionType? opts operation = none)
    (hread : lang.render (lang.parse field.name) = field.name) :
    lang.returnType opts field operation = lang.otherReturnOfExpr opts field := by
  unfold returnType templatedType? otherReturnOfExpr
  simp only [h, swappedList?_nullableName, wrappedReturn?_nullableName opts _ hread]
  rw [render_primitiveExpr, ← render_nullableExpr opts field.mandatory hread]
  generalize lang.nullableExpr opts field.mandatory field.name = type
  cases Text.inForce? opts.returnListType with
  | none =>
    cases Text.inForce? opts.returnType with
    | none => rfl
    | some outer => rfl
  | some swapped =>
    cases type with
    | list inner marker => rfl
    | primitive _ | named _ | optional _ _ | bounded _ =>
      cases Text.inForce? opts.returnType with
      | none => rfl
      | some outer => rfl

theorem returnType_eq_returnTypeOfExpr (lang : Language) (opts : Options) (field : ReturnField)
    (operation : Text)
    (hname : lang = .scala ∨ lang.render (lang.parse field.name) = field.name) :
    lang.returnType opts field operation = lang.returnTypeOfExpr opts field operation := by
  have hread : lang.render (lang.parse field.name) = field.name := by
    rcases hname with rfl | hread
    · exact render_parse_scala field.name
    · exact hread
  have hsubscription := subscriptionType?_eq opts operation
  unfold returnTypeOfExpr
  split at hsubscription
  next outer _ _ =>
    rw [returnType, templatedType?, hsubscription]
    show lang.lexicon.generic outer (lang.lexicon.box field.name) = _
    rw [box_eq_renderArgument hread]
  next => exact returnType_of_no_subscriptionType hsubscription hread

/-- The bound of a list stays on its element. -/
theorem returnType_bounded_list :
    Language.java.render (Language.java.parse "java.util.List<? extends User>") =
        ("java.util.List<? extends User>" : Text) ∧
      Language.java.returnType { returnListType := some "Flux" }
          { name := "java.util.List<? extends User>" } "QUERY" =
        ("Flux<? extends User>" : Text) := by
  have hread : Language.java.render (Language.java.parse "java.util.List<? extends User>") =
      ("java.util.List<? extends User>" : Text) := by decide +kernel
  refine ⟨hread, ?_⟩
  rw [returnType_eq_returnTypeOfExpr .java { returnListType := some "Flux" }
    { name := "java.util.List<? extends User>" } "QUERY" (Or.inr hread)]
  decide +kernel

end TargetTypes.Language
