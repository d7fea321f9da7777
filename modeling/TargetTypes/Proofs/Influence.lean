import TargetTypes.Proofs.Spelling
import TargetTypes.Proofs.TextField

/-!
# What each option has a say in

Two configurations side by side. The rules for returns read five settings and the companions of
enums read five others, so where two options have the first five in common, fields have the same
names, types and operations, and where they have the other five in common, the same annotations. A
field that is no direct return has its type whatever the options say.

The annotation of a mandatory field looks at its type, but only where it is no direct return; and
the companion is that of the declared type, not of the resolved one.

    types of returns depend on the settings for returns          (returnType_congr)
    companions depend on the settings for classes                (enumAnnotations_congr)
    both, for a list of definitions                              (ofDefinitions_congr)
-/

namespace TargetTypes

namespace Options

/-- What the rules for returns read. -/
def returnSettings : List Setting :=
  [.optionalReturns, .subscriptionType, .returnListType, .returnType, .customTypes]

/-- What the name and the package of a model class are made of. -/
def classSettings : List Setting := [.modelPrefix, .modelSuffix, .enums, .package, .modelPackage]

/-- Both options have these settings in common. -/
def SameOn (shared : List Setting) (a b : Options) : Prop :=
  ∀ setting ∈ shared, setting.SameIn a b

theorem className_congr {a b : Options} (h : SameOn classSettings a b) (name : Text) :
    a.className name = b.className name := by
  have hprefix : a.modelPrefix = b.modelPrefix := h .modelPrefix (by decide)
  have hsuffix : a.modelSuffix = b.modelSuffix := h .modelSuffix (by decide)
  rw [className, className, hprefix, hsuffix]

theorem classPackage_congr {a b : Options} (h : SameOn classSettings a b) :
    a.classPackage = b.classPackage := by
  have hpackage : a.package = b.package := h .package (by decide)
  have hmodel : a.modelPackage = b.modelPackage := h .modelPackage (by decide)
  rw [classPackage, classPackage, hpackage, hmodel]

end Options

namespace Language

variable (lang : Language) {a b : Options}

/-! ## Settings for returns -/

section

variable (h : Options.SameOn Options.returnSettings a b)

include h

theorem subscriptionType?_congr (operation : Text) :
    subscriptionType? a operation = subscriptionType? b operation := by
  have hsubscription : a.subscriptionType = b.subscriptionType := h .subscriptionType (by decide)
  rw [subscriptionType?, subscriptionType?, hsubscription]

theorem nullableName_congr (mandatory : Bool) (name : Text) :
    lang.nullableName a mandatory name = lang.nullableName b mandatory name := by
  have hoptional : a.optionalReturns = b.optionalReturns := h .optionalReturns (by decide)
  rw [nullableName, nullableName, hoptional]

theorem swappedList?_congr (name : Text) :
    lang.swappedList? a name = lang.swappedList? b name := by
  have hlist : a.returnListType = b.returnListType := h .returnListType (by decide)
  rw [swappedList?, swappedList?, hlist]

theorem wrappedReturn?_congr (name : Text) :
    lang.wrappedReturn? a name = lang.wrappedReturn? b name := by
  have hreturn : a.returnType = b.returnType := h .returnType (by decide)
  rw [wrappedReturn?, wrappedReturn?, hreturn]

theorem templatedType?_congr (operation : Text) (mandatory : Bool) (name : Text) :
    lang.templatedType? a operation mandatory name =
      lang.templatedType? b operation mandatory name := by
  simp only [templatedType?, subscriptionType?_congr h, lang.nullableName_congr h,
    lang.swappedList?_congr h, lang.wrappedReturn?_congr h]

/-- The custom types count by look-up, so their order does not matter. -/
theorem primitiveFor?_congr (field : ReturnField) :
    lang.primitiveFor? a field = lang.primitiveFor? b field := by
  have htypes : ∀ key, a.customTypes.lookup key = b.customTypes.lookup key :=
    h .customTypes (by decide)
  simp only [primitiveFor?, mappedPrimitive?, htypes]

theorem returnType_congr (field : ReturnField) (operation : Text) :
    lang.returnType a field operation = lang.returnType b field operation := by
  simp only [returnType, lang.templatedType?_congr h, lang.primitiveFor?_congr h,
    lang.nullableName_congr h]

end

/-! ## Settings for classes -/

theorem enumAnnotations_congr (h : Options.SameOn Options.classSettings a b) (name : Text) :
    lang.enumAnnotations a name = lang.enumAnnotations b name := by
  have henums : ∀ enum, enum ∈ a.enums ↔ enum ∈ b.enums := h .enums (by decide)
  have hcontains : a.enums.contains (b.className name) = b.enums.contains (b.className name) := by
    rw [Bool.eq_iff_iff, List.contains_iff_mem, List.contains_iff_mem]
    exact henums _
  cases lang with
  | java => rfl
  | scala =>
    simp only [enumAnnotations, Options.className_congr h, Options.classPackage_congr h, hcontains]

end Language

namespace Field

/-! ## Fields -/

variable (lang : Language) {a b : Options}

theorem typeName_congr (h : Options.SameOn Options.returnSettings a b) (definition : Json) :
    typeName lang a definition = typeName lang b definition := by
  unfold typeName
  cases operation? definition with
  | none => rfl
  | some operation => exact lang.returnType_congr h _ operation

/-- What is no direct return has its listed name for a type. -/
theorem typeName_of_no_operation (opts : Options) {definition : Json}
    (h : (definition.getD "operation").truthy = false) :
    typeName lang opts definition = listedName lang definition := by
  rw [typeName, operation?_of_truthy_eq_false h]

/-- Two options on the same textual definitions, all with names. With the settings for returns in
common, all names, types and operations are the same; with the settings for classes in common, all
annotations are; and the type of a field without an operation is the same in any case. -/
theorem ofDefinitions_congr (a b : Options) {definitions : List Json}
    (h : ∀ definition ∈ definitions,
      Textual definition ∧ (definition.get? "name").isSome = true) :
    ∃ fieldsA fieldsB, ofDefinitions lang a definitions = .ok fieldsA ∧
      ofDefinitions lang b definitions = .ok fieldsB ∧
      (Options.SameOn Options.returnSettings a b →
        fieldsA.map (fun field => (field.name, field.type, field.operation)) =
          fieldsB.map (fun field => (field.name, field.type, field.operation))) ∧
      (Options.SameOn Options.classSettings a b →
        fieldsA.map annotations = fieldsB.map annotations) ∧
      ∀ (i : Nat) (definition : Json), definitions[i]? = some definition →
        (definition.getD "operation").truthy = false →
        ∃ type, fieldsA[i]?.map Field.type = some type ∧ fieldsB[i]?.map Field.type = some type := by
  refine ⟨_, _, ofDefinitions_of_textual lang a h, ofDefinitions_of_textual lang b h,
    fun hreturns => ?_, fun hclasses => ?_, fun i definition hi hoperation => ?_⟩
  · simp only [List.map_map]
    refine List.map_congr_left fun definition _ => ?_
    simp only [Function.comp_apply, ofTextual, typeName_congr lang hreturns]
  · simp only [List.map_map]
    refine List.map_congr_left fun definition _ => ?_
    simp only [Function.comp_apply, ofTextual, lang.enumAnnotations_congr hclasses]
  · refine ⟨.str (listedName lang definition), ?_, ?_⟩
    · rw [List.getElem?_map, hi]
      exact congrArg (fun name => some (Json.str name)) (typeName_of_no_operation lang a hoperation)
    · rw [List.getElem?_map, hi]
      exact congrArg (fun name => some (Json.str name)) (typeName_of_no_operation lang b hoperation)

/-- A model field of an enum type. -/
def colorField : Json :=
  .obj [("name", .str "color"), ("type", .str "Color"), ("mandatory", .bool true)]

/-- Other enums and another package leave the type of the list and that of the enum alone. -/
theorem ofDefinitions_other_enums :
    (∀ definition ∈ [mandatoryInts, colorField],
      Textual definition ∧ (definition.get? "name").isSome = true) ∧
    ∃ fieldsA fieldsB,
      ofDefinitions .scala { enums := ["Color"] } [mandatoryInts, colorField] = .ok fieldsA ∧
      ofDefinitions .scala { package := some "model" } [mandatoryInts, colorField] = .ok fieldsB ∧
      fieldsA.map (fun field => (field.name, field.type, field.operation)) =
        fieldsB.map (fun field => (field.name, field.type, field.operation)) := by
  have h : ∀ definition ∈ [mandatoryInts, colorField],
      Textual definition ∧ (definition.get? "name").isSome = true := by
    simp only [List.forall_mem_cons]
    refine ⟨⟨⟨⟨"Int", rfl⟩, Or.inr ⟨"QUERY", rfl⟩, Or.inr ⟨"Int", rfl⟩⟩, rfl⟩,
      ⟨⟨⟨"Color", rfl⟩, Or.inl rfl, Or.inl rfl⟩, rfl⟩, List.forall_mem_nil _⟩
  have hshared : Options.SameOn Options.returnSettings
      { enums := ["Color"] } { package := some "model" } := by
    simp only [Options.SameOn, Options.returnSettings, List.forall_mem_cons]
    exact ⟨rfl, rfl, rfl, rfl, fun _ => rfl, List.forall_mem_nil _⟩
  obtain ⟨fieldsA, fieldsB, hA, hB, hreturns, -⟩ :=
    ofDefinitions_congr .scala { enums := ["Color"] } { package := some "model" } h
  exact ⟨h, fieldsA, fieldsB, hA, hB, hreturns hshared⟩

end Field

end TargetTypes
