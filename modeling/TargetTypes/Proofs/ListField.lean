import TargetTypes.Field
import TargetTypes.Options.Reader
import TargetTypes.Proofs.Wrapping

/-!
# Fields that are lists

The type of a field that is marked as a list and is the direct return of an operation. The list
is made first, so rule 2 passes it over, rule 3 finds the element that was put in, and rules 1
and 4 take the whole list. There are two ways out of a list. A list type for returns that is a
template without brackets asks for one. The other is rule 5: its primitive is what the schema
type of one element is mapped to, and it takes the place of the whole list all the same.

    the rules on a list                                                    (returnType_listOf)
    when no bracket is left                                          (isBare_listReturnType_iff)
    both, for the definition of a field                                  (type_of_listed_return)
-/

namespace TargetTypes

namespace Language

/-! ## Algorithm -/

/-- What the rules for returns make of a list; `primitive` is that of rule 5. -/
def listReturnType (lang : Language) (opts : Options) (operation : Text) (primitive : Option Text)
    (list : Text) : Text :=
  match subscriptionType? opts operation with
  | some outer => lang.generic outer list
  | none =>
    match Text.inForce? opts.returnListType with
    | some outer => lang.generic outer (lang.element list)
    | none =>
      match Text.inForce? opts.returnType with
      | some outer => lang.generic outer list
      | none => primitive.getD list

/-- A name without any opening bracket: neither a list nor another generic. -/
def IsBare (lang : Language) (name : Text) : Prop :=
  ∀ c ∈ name, [c] ≠ lang.lexicon.brackets.opening

instance (lang : Language) (name : Text) : Decidable (lang.IsBare name) :=
  List.decidableBAll (fun c => [c] ≠ lang.lexicon.brackets.opening) name

/-! ## The rules on a list -/

section

variable (lang : Language) (opts : Options) {name : Text}
  (hb : lang.lexicon.brackets.balanced name = true)

include hb

theorem isCollection_listOf : lang.isCollection (lang.listOf name) = true := by
  rw [isCollection, lang.parse_listOf hb]
  rfl

theorem nullableName_listOf (mandatory : Bool) :
    lang.nullableName opts mandatory (lang.listOf name) = lang.listOf name :=
  nullableName_of_isCollection opts mandatory (lang.isCollection_listOf hb)

theorem swappedList?_listOf :
    lang.swappedList? opts (lang.listOf name) =
      (Text.inForce? opts.returnListType).map fun outer =>
        lang.generic outer (lang.element (lang.listOf name)) := by
  unfold swappedList? element
  rw [lang.parse_listOf hb]
  cases Text.inForce? opts.returnListType with
  | none => rfl
  | some outer => rfl

theorem returnType_listOf (mandatory primitiveAllowed : Bool) (schemaType : Option Text)
    (operation : Text) :
    lang.returnType opts ⟨lang.listOf name, mandatory, schemaType, primitiveAllowed⟩ operation =
      lang.listReturnType opts operation
        (lang.primitiveFor? opts ⟨lang.listOf name, mandatory, schemaType, primitiveAllowed⟩)
        (lang.listOf name) := by
  unfold returnType templatedType? listReturnType
  cases subscriptionType? opts operation with
  | some outer => rfl
  | none =>
    simp only [lang.nullableName_listOf opts hb, lang.swappedList?_listOf opts hb]
    cases Text.inForce? opts.returnListType with
    | some outer => rfl
    | none =>
      simp only [Option.map_none, wrappedReturn?]
      cases Text.inForce? opts.returnType with
      | some outer => rfl
      | none => rfl

end

/-! ## When no bracket is left -/

theorem isBare_of_unbracketed {lang : Language} {name : Text}
    (h : lang.lexicon.brackets.Unbracketed name) : lang.IsBare name := fun c hc => (h c hc).1

theorem not_isBare_enclose (lang : Language) (outer argument : Text) :
    ¬ lang.IsBare (lang.lexicon.brackets.enclose outer argument) := by
  obtain ⟨o, hmem, ho⟩ := Brackets.exists_opening_mem_enclose lang.legible.paired outer argument
  intro h
  exact h o hmem ho

theorem not_isBare_listOf (lang : Language) (name : Text) : ¬ lang.IsBare (lang.listOf name) := by
  rw [lang.listOf_eq_enclose]
  exact lang.not_isBare_enclose _ _

theorem isBare_box_iff (lang : Language) (name : Text) :
    lang.IsBare (lang.lexicon.box name) ↔ lang.IsBare name := by
  by_cases hp : name ∈ lang.lexicon.primitives
  · have hname : lang.IsBare name := isBare_of_unbracketed (lang.legible.unbracketed_primitive hp)
    rcases lang.legible.box_cases name with he | ⟨-, hfree⟩
    · rw [he]
    · exact iff_of_true (isBare_of_unbracketed hfree) hname
  · rw [lang.legible.box_of_not_primitive hp]

/-- No opening bracket is a character of the slot, so filling it loses none. -/
theorem isBare_fill_iff (lang : Language) {outer : Text} (hs : Text.hasSlot outer = true)
    (argument : Text) :
    lang.IsBare (Text.fill outer argument) ↔ lang.IsBare outer ∧ lang.IsBare argument := by
  have hfill : ∀ c : CodePoint, [c] = lang.lexicon.brackets.opening →
      (c ∈ Text.fill outer argument ↔
        c ∈ outer ∨ (Text.hasSlot outer = true ∧ c ∈ argument)) := by
    intro c hc
    apply Text.mem_fill
    · rintro rfl
      cases lang <;> cases hc
    · rintro rfl
      cases lang <;> cases hc
  constructor
  · intro h
    refine ⟨fun c hc he => ?_, fun c hc he => ?_⟩
    · exact h c ((hfill c he).mpr (Or.inl hc)) he
    · exact h c ((hfill c he).mpr (Or.inr ⟨hs, hc⟩)) he
  · rintro ⟨houter, hargument⟩ c hc he
    rcases (hfill c he).mp hc with hc | ⟨-, hc⟩
    · exact houter c hc he
    · exact hargument c hc he

/-- Only a template without brackets around an argument without brackets has none. -/
theorem isBare_generic_iff (lang : Language) (outer argument : Text) :
    lang.IsBare (lang.generic outer argument) ↔
      Text.hasSlot outer = true ∧ lang.IsBare outer ∧ lang.IsBare argument := by
  unfold generic Lexicon.generic
  cases hs : Text.hasSlot outer with
  | false =>
    rw [if_neg Bool.false_ne_true]
    exact iff_of_false (lang.not_isBare_enclose _ _) fun h => Bool.false_ne_true h.1
  | true =>
    rw [if_pos rfl, lang.isBare_fill_iff hs, lang.isBare_box_iff]
    exact (and_iff_right rfl).symm

theorem mem_primitives_of_primitiveFor? {lang : Language} {opts : Options} {field : ReturnField}
    {primitive : Text} (h : lang.primitiveFor? opts field = some primitive) :
    primitive ∈ lang.lexicon.primitives := by
  unfold primitiveFor? at h
  split at h
  · split at h
    · obtain ⟨-, hp⟩ := Option.filter_eq_some_iff.mp h
      exact List.contains_iff_mem.mp hp
    · cases h
  · cases h

theorem isBare_of_primitiveFor? {lang : Language} {opts : Options} {field : ReturnField}
    {primitive : Text} (h : lang.primitiveFor? opts field = some primitive) :
    lang.IsBare primitive :=
  isBare_of_unbracketed (lang.legible.unbracketed_primitive (mem_primitives_of_primitiveFor? h))

theorem isBare_listReturnType_iff (lang : Language) (opts : Options) (operation : Text)
    {primitive : Option Text} (hp : ∀ p ∈ primitive, lang.IsBare p) (name : Text) :
    lang.IsBare (lang.listReturnType opts operation primitive (lang.listOf name)) ↔
      subscriptionType? opts operation = none ∧
        ((∃ outer, Text.inForce? opts.returnListType = some outer ∧ Text.hasSlot outer = true ∧
            lang.IsBare outer ∧ lang.IsBare (lang.element (lang.listOf name))) ∨
          (Text.inForce? opts.returnListType = none ∧ Text.inForce? opts.returnType = none ∧
            primitive.isSome = true)) := by
  have hlist : ∀ outer, ¬ lang.IsBare (lang.generic outer (lang.listOf name)) := by
    intro outer h
    exact lang.not_isBare_listOf name ((lang.isBare_generic_iff _ _).mp h).2.2
  unfold listReturnType
  cases subscriptionType? opts operation with
  | some outer =>
    refine iff_of_false (hlist outer) ?_
    rintro ⟨h, -⟩
    cases h
  | none =>
    cases Text.inForce? opts.returnListType with
    | some outer => simp [lang.isBare_generic_iff]
    | none =>
      cases Text.inForce? opts.returnType with
      | some outer => simp [hlist outer]
      | none =>
        cases primitive with
        | none => simp [lang.not_isBare_listOf name]
        | some p => simp [hp p rfl]

end Language

namespace Field

/-- The primitive that rule 5 has for a definition, if it has one. -/
def primitive? (lang : Language) (opts : Options) (definition : Json) : Option Text :=
  lang.primitiveFor? opts
    ⟨[], (definition.getD "mandatory").truthy, (definition.getD "graphqlType").text?, true⟩

/-! ## The definition of a field -/

theorem needed_of_get? {key : Text} {definition value : Json}
    (h : definition.get? key = some value) : needed key definition = .ok value := by
  cases definition with
  | obj entries =>
    have hl : entries.lookup key = some value := h
    simp only [needed, hl]
  | _ => cases h

theorem operationOf_of_str {definition : Json} {operation : Text}
    (h : definition.getD "operation" = .str operation) (hne : operation ≠ []) :
    operationOf definition = .ok (some operation) := by
  have ht : (definition.getD "operation").truthy = true := by
    rw [h]
    cases operation with
    | nil => exact absurd rfl hne
    | cons c r => rfl
  unfold operationOf
  simp only [ht, if_true]
  rw [h]
  rfl

theorem primitiveFor?_of_falsy (lang : Language) (opts : Options) {schemaType : Json}
    (h : schemaType.truthy = false) (name : Text) (mandatory : Bool) :
    lang.primitiveFor? opts ⟨name, mandatory, schemaType.text?, true⟩ = none := by
  cases schemaType with
  | str s =>
    have hs : s.isEmpty = true := by simpa [Json.truthy] using h
    simp [Language.primitiveFor?, Json.text?, hs]
  | _ => rfl

/-- On a text, with a schema type that is a text or counts as false, the rules are those for
texts. -/
theorem resolved_str (lang : Language) (opts : Options) {definition : Json}
    (hschema : (definition.getD "graphqlType").truthy = false ∨
      ∃ s, definition.getD "graphqlType" = .str s) (name operation : Text) :
    resolved lang opts definition (.str name) (some operation) =
      .ok (.str (lang.returnType opts
        ⟨name, (definition.getD "mandatory").truthy, (definition.getD "graphqlType").text?, true⟩
        operation)) := by
  rcases hschema with hfalse | ⟨s, hs⟩
  · simp only [resolved, Language.returnTypeValue, Language.returnType, Language.orPrimitive]
    rw [primitiveFor?_of_falsy lang opts hfalse, hfalse]
    cases lang.templatedType? opts operation (definition.getD "mandatory").truthy name with
    | some type => rfl
    | none => simp
  · rw [resolved, hs]
    exact lang.returnTypeValue_str opts name s operation _ true

/-- Without an operation's own fault, a field has its type as soon as its name is there. -/
theorem type_ofDefinition {lang : Language} {opts : Options} {definition declared listedType : Json}
    {operation : Text} {type : Json} (hdeclared : needed "type" definition = .ok declared)
    (hlisted : listed lang definition declared = .ok listedType)
    (hoperation : operationOf definition = .ok (some operation))
    (htype : resolved lang opts definition listedType (some operation) = .ok type) :
    (ofDefinition lang opts definition).map Field.type =
      (needed "name" definition).map fun _ => type := by
  have hvalid : validation lang definition type (some operation) = .ok [] := by
    simp [validation]
  unfold ofDefinition
  simp only [hdeclared, hlisted, hoperation, htype, bind, Except.bind]
  cases needed "name" definition with
  | error fault => rfl
  | ok name =>
    simp only [hvalid]
    rfl

/-! ## Listed returns -/

/-- A field that is a listed return of an operation has its type as soon as its name is there: the
list goes into the subscription type, or its element into the list type for returns, or the list
into the return type, or it gives way to the primitive of rule 5, or it stays. A name without
brackets is left in two cases only: by that primitive, and by a list type for returns that is a
template and has, like the element, no brackets. -/
theorem type_of_listed_return {lang : Language} {opts : Options} {definition : Json}
    {declared operation : Text} (htype : definition.get? "type" = some (.str declared))
    (hbalanced : lang.lexicon.brackets.balanced declared = true)
    (hlist : (definition.getD "list").truthy = true)
    (hoperation : definition.getD "operation" = .str operation) (hne : operation ≠ [])
    (hschema : (definition.getD "graphqlType").truthy = false ∨
      ∃ s, definition.getD "graphqlType" = .str s) :
    (ofDefinition lang opts definition).map Field.type =
        (needed "name" definition).map (fun _ => .str (lang.listReturnType opts operation
          (primitive? lang opts definition) (lang.listOf declared))) ∧
      (lang.parse (lang.listOf declared)).isList = true ∧
      (lang.IsBare (lang.listReturnType opts operation (primitive? lang opts definition)
          (lang.listOf declared)) ↔
        Language.subscriptionType? opts operation = none ∧
          ((∃ outer, Text.inForce? opts.returnListType = some outer ∧ Text.hasSlot outer = true ∧
              lang.IsBare outer ∧ lang.IsBare (lang.element (lang.listOf declared))) ∨
            (Text.inForce? opts.returnListType = none ∧ Text.inForce? opts.returnType = none ∧
              (primitive? lang opts definition).isSome = true))) := by
  have hlisted : listed lang definition (.str declared) = .ok (.str (lang.listOf declared)) := by
    unfold listed
    rw [if_pos hlist]
    rfl
  refine ⟨type_ofDefinition (needed_of_get? htype) hlisted (operationOf_of_str hoperation hne) ?_,
    ?_, ?_⟩
  · rw [resolved_str lang opts hschema, lang.returnType_listOf opts hbalanced]
    rfl
  · rw [lang.parse_listOf hbalanced]
    rfl
  · exact lang.isBare_listReturnType_iff opts operation
      (fun p hp => Language.isBare_of_primitiveFor? hp) declared

/-- A query for a list of integers; neither the list nor an integer in it may be missing. -/
def mandatoryInts : Json :=
  .obj [("name", .str "ids"), ("type", .str "Int"), ("graphqlType", .str "Int"),
    ("mandatory", .bool true), ("list", .bool true), ("operation", .str "QUERY")]

/-- The list type for returns comes before the primitive. -/
theorem type_of_listed_stream :
    mandatoryInts.get? "type" = some (.str "Int") ∧
      (ofDefinition .scala
          { returnListType := some "fs2.Stream[F, %s]", customTypes := [("Int!", "Int")] }
          mandatoryInts).map Field.type = .ok (.str "fs2.Stream[F, Int]") := by
  refine ⟨rfl, ?_⟩
  have h := (@type_of_listed_return .scala
    { returnListType := some "fs2.Stream[F, %s]", customTypes := [("Int!", "Int")] }
    mandatoryInts "Int" "QUERY" rfl (by decide) rfl rfl (by decide) (Or.inr ⟨"Int", rfl⟩)).1
  rw [h]
  exact congrArg (fun type => Except.ok (Json.str type)) (by decide +kernel)

/-- A list does not always stay a list: the primitive of one element takes the place of the whole
list, and a template for lists that is only its slot leaves the bare element. -/
theorem listed_return_not_always_list :
    (¬ ∀ (lang : Language) (opts : Options) (definition : Json) (declared operation : Text),
        definition.get? "type" = some (.str declared) →
        lang.lexicon.brackets.balanced declared = true →
        (definition.getD "list").truthy = true →
        definition.getD "operation" = .str operation → operation ≠ [] →
        ((definition.getD "graphqlType").truthy = false ∨
          ∃ s, definition.getD "graphqlType" = .str s) →
        (ofDefinition lang opts definition).map Field.type =
          (needed "name" definition).map fun _ =>
            .str (lang.listReturnType opts operation none (lang.listOf declared))) ∧
      (¬ ∀ (lang : Language) (opts : Options) (declared operation : Text),
        lang.lexicon.brackets.balanced declared = true → operation ≠ [] →
        ¬ lang.IsBare (lang.listReturnType opts operation none (lang.listOf declared))) := by
  constructor
  · intro h
    have hint := congrArg (fun type => type.toOption.bind Json.text?)
      (h .scala { customTypes := [("Int!", "Int")] } mandatoryInts "Int" "QUERY"
        rfl (by decide) rfl rfl (by decide) (Or.inr ⟨"Int", rfl⟩))
    exact absurd hint (by decide +kernel)
  · intro h
    have hlist : ¬ Language.scala.IsBare (Language.scala.listReturnType
        { returnListType := some "%s" } "QUERY" none (Language.scala.listOf "Int")) :=
      h .scala { returnListType := some "%s" } "Int" "QUERY" (by decide) (by decide)
    exact absurd hlist (by decide +kernel)

end Field

end TargetTypes
