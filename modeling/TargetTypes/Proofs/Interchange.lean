import TargetTypes.Preview
import TargetTypes.Proofs.Influence

/-!
# Options that agree are interchangeable

Options agree if all single settings are the same, the enums have the same members and the custom
types the same entries. How the enums and the custom types were written down, in which order and how
often, is seen nowhere: enums are asked for membership only and custom types are looked up. So every
answer is the same under the one and under the other, and so is every fault, also for definitions
that are no objects and types that are no texts.

    a language answers all that it is asked alike                 (answer_congr)
    a definition gives the same field, or the same fault          (ofDefinition_congr)
    all of it, for options that agree                             (agree_iff_and_interchangeable)
-/

namespace TargetTypes

namespace Options

theorem sameOn_of_agree {a b : Options} (h : agree a b = true) (shared : List Setting) :
    SameOn shared a b :=
  fun setting _ => agree_iff_sameIn.mp h setting

end Options

namespace Language

/-! ## What a language is asked under options -/

/-- A question to a language, with all it is given beside the options. -/
inductive Request where
  | generic (outer : Text) (argument : Json)
  | listOf (name : Json)
  | listOfSubtypes (name : Json)
  | optionalOf (name : Json)
  | returnType (declared : DeclaredReturn) (operation : Json)
  /-- The primitive of rule 5, or the value as it is. -/
  | orPrimitive (declared : DeclaredReturn) (value : Json)
  | annotations (typeName : Json)

def answer (lang : Language) (opts : Options) : Request → Except Fault Json
  | .generic outer argument => (lang.genericValue outer argument).map .str
  | .listOf name => (lang.genericValue lang.lexicon.listMarker name).map .str
  | .listOfSubtypes name => (lang.listOfSubtypesValue name).map .str
  | .optionalOf name => (lang.genericValue lang.lexicon.optionalMarker name).map .str
  | .returnType declared operation => do
    let operation ← operation.asName
    lang.returnTypeValue opts declared operation
  | .orPrimitive declared value => lang.orPrimitive opts declared value
  | .annotations typeName =>
    .ok (.arr ((lang.enumAnnotations opts typeName.display).map .str))

variable (lang : Language) {a b : Options}

section

variable (h : Options.SameOn Options.returnSettings a b)

include h

theorem mappedPrimitive?_congr (schemaType : Text) :
    lang.mappedPrimitive? a schemaType = lang.mappedPrimitive? b schemaType := by
  have htypes : ∀ key, a.customTypes.lookup key = b.customTypes.lookup key :=
    h .customTypes (by decide)
  rw [mappedPrimitive?, mappedPrimitive?, htypes]

theorem orPrimitive_congr (declared : DeclaredReturn) (value : Json) :
    lang.orPrimitive a declared value = lang.orPrimitive b declared value := by
  simp only [orPrimitive, lang.mappedPrimitive?_congr h]

theorem returnTypeOther_congr (declared : DeclaredReturn) (operation : Text) (value : Json) :
    lang.returnTypeOther a declared operation value =
      lang.returnTypeOther b declared operation value := by
  have hoptional : a.optionalReturns = b.optionalReturns := h .optionalReturns (by decide)
  have hlist : a.returnListType = b.returnListType := h .returnListType (by decide)
  have hreturn : a.returnType = b.returnType := h .returnType (by decide)
  simp only [returnTypeOther, subscriptionType?_congr h, lang.orPrimitive_congr h, hoptional,
    hlist, hreturn]

theorem returnTypeValue_congr (declared : DeclaredReturn) (operation : Text) :
    lang.returnTypeValue a declared operation = lang.returnTypeValue b declared operation := by
  simp only [returnTypeValue, lang.templatedType?_congr h, lang.nullableName_congr h,
    lang.orPrimitive_congr h, lang.returnTypeOther_congr h]

end

theorem answer_congr (hreturns : Options.SameOn Options.returnSettings a b)
    (hclasses : Options.SameOn Options.classSettings a b) (request : Request) :
    lang.answer a request = lang.answer b request := by
  cases request with
  | generic | listOf | listOfSubtypes | optionalOf => rfl
  | returnType declared operation => simp only [answer, lang.returnTypeValue_congr hreturns]
  | orPrimitive declared value => exact lang.orPrimitive_congr hreturns declared value
  | annotations typeName => simp only [answer, lang.enumAnnotations_congr hclasses]

end Language

namespace Field

/-! ## Fields -/

variable (lang : Language) {a b : Options}

theorem resolved_congr (h : Options.SameOn Options.returnSettings a b) (definition type : Json)
    (operation : Option Text) :
    resolved lang a definition type operation = resolved lang b definition type operation := by
  cases operation with
  | none => rfl
  | some operation => exact lang.returnTypeValue_congr h _ operation

/-- The steps are the same one after the other, so the first fault on the way is too. -/
theorem ofDefinition_congr (hreturns : Options.SameOn Options.returnSettings a b)
    (hclasses : Options.SameOn Options.classSettings a b) (definition : Json) :
    ofDefinition lang a definition = ofDefinition lang b definition := by
  simp only [ofDefinition, resolved_congr lang hreturns, lang.enumAnnotations_congr hclasses]

end Field

namespace Options

/-- Nothing that is asked under the one is answered otherwise under the other. -/
structure Interchangeable (a b : Options) : Prop where
  classPackage : a.classPackage = b.classPackage
  className : ∀ typeName, a.className typeName = b.className typeName
  answer : ∀ (lang : Language) request, lang.answer a request = lang.answer b request
  field : ∀ lang definition,
    Field.ofDefinition lang a definition = Field.ofDefinition lang b definition
  fields : ∀ lang definitions,
    Field.ofDefinitions lang a definitions = Field.ofDefinitions lang b definitions
  page : ∀ lang definitions,
    (Field.ofDefinitions lang a definitions).map (Preview.ofFields lang) =
      (Field.ofDefinitions lang b definitions).map (Preview.ofFields lang)

/-- Equality of options says what it should, and whatever is equal may stand for the other. -/
theorem agree_iff_and_interchangeable (a b : Options) :
    (agree a b = true ↔
      a.settings = b.settings ∧ (∀ name, name ∈ a.enums ↔ name ∈ b.enums) ∧
        ∀ key value,
          a.customTypes.lookup key = some value ↔ b.customTypes.lookup key = some value) ∧
      (agree a b = true → Interchangeable a b) := by
  constructor
  · rw [agree_iff]
    refine and_congr_right fun _ => and_congr_right fun _ => forall_congr' fun key => ?_
    exact ⟨fun h value => by rw [h], Option.ext⟩
  · intro h
    have hreturns := sameOn_of_agree h returnSettings
    have hclasses := sameOn_of_agree h classSettings
    have hfields (lang : Language) (definitions : List Json) :
        Field.ofDefinitions lang a definitions = Field.ofDefinitions lang b definitions := by
      have hfield := funext (Field.ofDefinition_congr lang hreturns hclasses)
      rw [Field.ofDefinitions, Field.ofDefinitions, hfield]
    exact {
      classPackage := classPackage_congr hclasses
      className := className_congr hclasses
      answer := fun lang => lang.answer_congr hreturns hclasses
      field := fun lang => Field.ofDefinition_congr lang hreturns hclasses
      fields := hfields
      page := fun lang definitions => by rw [hfields lang definitions] }

/-- Enums and custom types in one order. -/
def colorsFirst : Options where
  optionalReturns := true
  enums := ["Color", "Size"]
  customTypes := [("Int!", "Int"), ("Long!", "Long")]

/-- The same in another order, one enum twice. -/
def sizesFirst : Options where
  optionalReturns := true
  enums := ["Size", "Color", "Size"]
  customTypes := [("Long!", "Long"), ("Int!", "Int")]

theorem interchangeable_colorsFirst :
    agree colorsFirst sizesFirst = true ∧ Interchangeable colorsFirst sizesFirst := by
  have h : agree colorsFirst sizesFirst = true := by decide
  exact ⟨h, (agree_iff_and_interchangeable colorsFirst sizesFirst).2 h⟩

end Options

end TargetTypes
