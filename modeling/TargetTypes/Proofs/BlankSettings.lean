import Mathlib.Control.Monad.Basic
import TargetTypes.Preview

/-!
# Blank settings

A setting that is blank counts as none, and so does an empty part of a class name. So what is in
force of the options says everything: it resolves all definitions alike, and where a definition
cannot be resolved it has the same fault. Taking blank settings out of the options, one of them or
all, leaves in force what was in force.

    what is in force of the options resolves alike               (ofDefinition_inForce)
    taking blank settings out leaves it as it is                      (inForce_eq_of_clears)
    so all fields and the page stay as they were               (ofDefinitions_of_clears)
-/

namespace TargetTypes

/-! ## What is in force -/

theorem Text.inForce?_inForce? (setting : Option Text) :
    Text.inForce? (Text.inForce? setting) = Text.inForce? setting := by
  cases setting with
  | none => rfl
  | some text =>
    cases h : Text.isBlank text <;> simp [Text.inForce?, h]

namespace Options

/-- Blank settings are taken out, and so are empty parts of class names. -/
def inForce (opts : Options) : Options :=
  { opts with
    subscriptionType := Text.inForce? opts.subscriptionType
    returnListType := Text.inForce? opts.returnListType
    returnType := Text.inForce? opts.returnType
    modelPrefix := opts.modelPrefix.filter (!·.isEmpty)
    modelSuffix := opts.modelSuffix.filter (!·.isEmpty)
    package := Text.inForce? opts.package
    modelPackage := Text.inForce? opts.modelPackage }

section

variable (opts : Options)

/-- A blank package of the models gives way to the package, which may be blank as well. -/
theorem inForce?_classPackage :
    Text.inForce? opts.inForce.classPackage = Text.inForce? opts.classPackage := by
  simp only [classPackage, inForce, Text.inForce?_inForce?]
  cases Text.inForce? opts.modelPackage with
  | none => exact Text.inForce?_inForce? opts.package
  | some package => rfl

theorem className_inForce (typeName : Text) :
    opts.inForce.className typeName = opts.className typeName := by
  have hpart (part : Option Text) : (part.filter (!·.isEmpty)).getD [] = part.getD [] := by
    cases part with
    | none => rfl
    | some text => cases text <;> rfl
  simp only [className, inForce, hpart]

end

end Options

namespace Language

variable (lang : Language) (opts : Options)

theorem subscriptionType?_inForce (operation : Text) :
    subscriptionType? opts.inForce operation = subscriptionType? opts operation := by
  simp only [subscriptionType?, Options.inForce, Text.inForce?_inForce?]

theorem swappedList?_inForce (name : Text) :
    lang.swappedList? opts.inForce name = lang.swappedList? opts name := by
  simp only [swappedList?, Options.inForce, Text.inForce?_inForce?]

theorem wrappedReturn?_inForce (name : Text) :
    lang.wrappedReturn? opts.inForce name = lang.wrappedReturn? opts name := by
  simp only [wrappedReturn?, Options.inForce, Text.inForce?_inForce?]

/-- Rule 2 reads no template. -/
theorem nullableName_inForce (mandatory : Bool) (name : Text) :
    lang.nullableName opts.inForce mandatory name = lang.nullableName opts mandatory name := rfl

theorem templatedType?_inForce (operation : Text) (mandatory : Bool) (name : Text) :
    lang.templatedType? opts.inForce operation mandatory name =
      lang.templatedType? opts operation mandatory name := by
  simp only [templatedType?, subscriptionType?_inForce, nullableName_inForce, swappedList?_inForce,
    wrappedReturn?_inForce]

/-- Rule 5 reads no template either. -/
theorem orPrimitive_inForce (declared : DeclaredReturn) (value : Json) :
    lang.orPrimitive opts.inForce declared value = lang.orPrimitive opts declared value := rfl

theorem returnTypeOther_inForce (declared : DeclaredReturn) (operation : Text) (value : Json) :
    lang.returnTypeOther opts.inForce declared operation value =
      lang.returnTypeOther opts declared operation value := by
  simp only [returnTypeOther, subscriptionType?_inForce, orPrimitive_inForce]
  simp only [Options.inForce, Text.inForce?_inForce?]

theorem returnTypeValue_inForce (declared : DeclaredReturn) (operation : Text) :
    lang.returnTypeValue opts.inForce declared operation =
      lang.returnTypeValue opts declared operation := by
  simp only [returnTypeValue, templatedType?_inForce, nullableName_inForce, orPrimitive_inForce,
    returnTypeOther_inForce]

theorem enumAnnotations_inForce (typeName : Text) :
    lang.enumAnnotations opts.inForce typeName = lang.enumAnnotations opts typeName := by
  cases lang with
  | java => rfl
  | scala =>
    have henums : opts.inForce.enums = opts.enums := rfl
    simp only [enumAnnotations, Options.className_inForce, Options.inForce?_classPackage, henums]

end Language

namespace Field

variable (lang : Language) (opts : Options)

theorem resolved_inForce (definition type : Json) (operation : Option Text) :
    resolved lang opts.inForce definition type operation =
      resolved lang opts definition type operation := by
  cases operation with
  | none => rfl
  | some operation => exact lang.returnTypeValue_inForce opts _ operation

theorem ofDefinition_inForce (definition : Json) :
    ofDefinition lang opts.inForce definition = ofDefinition lang opts definition := by
  simp only [ofDefinition, resolved_inForce, lang.enumAnnotations_inForce]

theorem ofDefinitions_inForce (definitions : List Json) :
    ofDefinitions lang opts.inForce definitions = ofDefinitions lang opts definitions := by
  have hfield := funext (ofDefinition_inForce lang opts)
  rw [ofDefinitions, ofDefinitions, hfield]

end Field

/-! ## Taking blank settings out -/

namespace Options

/-- A setting stays, or is taken out where its text is one of those. -/
inductive Cleared (p : Text → Prop) : (before after : Option Text) → Prop where
  | kept (setting : Option Text) : Cleared p setting setting
  | cleared {text : Text} : p text → Cleared p (some text) none

/-- Some blank settings of the options are taken out, and some empty parts of class names. -/
structure Clears (before after : Options) : Prop where
  language : after.language = before.language
  optionalReturns : after.optionalReturns = before.optionalReturns
  subscriptionType : Cleared (Text.isBlank ·) before.subscriptionType after.subscriptionType
  returnListType : Cleared (Text.isBlank ·) before.returnListType after.returnListType
  returnType : Cleared (Text.isBlank ·) before.returnType after.returnType
  modelPrefix : Cleared (· = []) before.modelPrefix after.modelPrefix
  modelSuffix : Cleared (· = []) before.modelSuffix after.modelSuffix
  enums : after.enums = before.enums
  package : Cleared (Text.isBlank ·) before.package after.package
  modelPackage : Cleared (Text.isBlank ·) before.modelPackage after.modelPackage
  customTypes : after.customTypes = before.customTypes

theorem Cleared.inForce?_eq {before after : Option Text} (h : Cleared (Text.isBlank ·) before after) :
    Text.inForce? after = Text.inForce? before := by
  cases h with
  | kept => rfl
  | cleared hblank => exact (Text.inForce?_of_isBlank hblank).symm

theorem Cleared.filter_eq {before after : Option Text} (h : Cleared (· = []) before after) :
    after.filter (!·.isEmpty) = before.filter (!·.isEmpty) := by
  cases h with
  | kept => rfl
  | cleared hempty =>
    subst hempty
    rfl

theorem inForce_eq_of_clears {before after : Options} (h : Clears before after) :
    after.inForce = before.inForce := by
  simp only [inForce, mk.injEq]
  exact ⟨h.language, h.optionalReturns, h.subscriptionType.inForce?_eq, h.returnListType.inForce?_eq,
    h.returnType.inForce?_eq, h.modelPrefix.filter_eq, h.modelSuffix.filter_eq, h.enums,
    h.package.inForce?_eq, h.modelPackage.inForce?_eq, h.customTypes⟩

end Options

/-- Whatever the definitions are, with any number of blank settings and empty parts of class names
taken out the fields are the same, or the fault is, and the page is. -/
theorem Field.ofDefinitions_of_clears (lang : Language) {before after : Options}
    (h : Options.Clears before after) (definitions : List Json) :
    ofDefinitions lang after definitions = ofDefinitions lang before definitions ∧
      (ofDefinitions lang after definitions).map (Preview.ofFields lang) =
        (ofDefinitions lang before definitions).map (Preview.ofFields lang) := by
  have hfields : ofDefinitions lang after definitions = ofDefinitions lang before definitions := by
    rw [← ofDefinitions_inForce lang after, Options.inForce_eq_of_clears h,
      ofDefinitions_inForce lang before]
  exact ⟨hfields, by rw [hfields]⟩

/-- Blank in every way: no characters, or white space of ASCII and of the rest. -/
def blanks : Options where
  subscriptionType := some "\u2003"
  returnListType := some ""
  returnType := some " \t\n"
  modelPrefix := some ""
  modelSuffix := some ""
  enums := ["Color"]
  package := some "\x1c"
  modelPackage := some "\u3000"

def colors : Json :=
  .obj [("name", .str "colors"), ("type", .str "Color"), ("list", .bool true),
    ("operation", .str "SUBSCRIPTION")]

/-- The companion has no package, the return no wrapper; what is no object is the same fault. -/
theorem Field.ofDefinitions_of_blanks :
    Options.Clears blanks { enums := ["Color"] } ∧
      (ofDefinitions .scala blanks [colors]).map (Preview.ofFields .scala) =
        .ok ("// Resolved scala types (1 fields)\n\n" ++
          "@com.fasterxml.jackson.module.scala.JsonScalaEnumeration" ++
          "(classOf[ColorTypeRefer])\nsubscription colors: Seq[Color]\n") ∧
      (ofDefinitions .scala blanks [colors, .null]).map (Preview.ofFields .scala) =
        .error .wrongKind := by
  have h : Options.Clears blanks { enums := ["Color"] } :=
    { language := rfl
      optionalReturns := rfl
      subscriptionType := .cleared (by decide)
      returnListType := .cleared rfl
      returnType := .cleared (by decide)
      modelPrefix := .cleared rfl
      modelSuffix := .cleared rfl
      enums := rfl
      package := .cleared (by decide)
      modelPackage := .cleared (by decide)
      customTypes := rfl }
  refine ⟨h, ?_, ?_⟩
  · rw [← (ofDefinitions_of_clears .scala h [colors]).2]
    decide +kernel
  · rw [← (ofDefinitions_of_clears .scala h [colors, .null]).2]
    decide +kernel

end TargetTypes
