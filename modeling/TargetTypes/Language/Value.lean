import TargetTypes.Fault
import TargetTypes.Json.Display
import TargetTypes.ReturnType

/-!
# Names that need not be text

A definition may give any JSON value as a type. A text goes through the rules of names. Any
other value is kept as it is, and shown by its text inside a bracketed generic; it does not go
into a template, and it cannot be taken apart.

    on texts the rules are those of `returnType`                         (returnTypeValue_str)
-/

namespace TargetTypes

/-- A return before the rules, as a definition gives it. -/
structure DeclaredReturn where
  name : Json
  mandatory : Bool := false
  schemaType : Json := .null
  primitiveAllowed : Bool := true

namespace Json

/-- The value as a name that can be taken apart. -/
def asName : Json → Except Fault Text
  | .str text => .ok text
  | _ => .error .notAName

/-- Lists and objects cannot be looked up in a set or a table. -/
def isContainer : Json → Bool
  | .arr _ => true
  | .obj _ => true
  | _ => false

end Json

namespace Language

/-! ## Algorithm -/

def isPrimitiveValue (lang : Language) : Json → Except Fault Bool
  | .str name => .ok (lang.isPrimitive name)
  | value => if value.isContainer then .error .wrongKind else .ok false

/-- A generic with a value as its argument. -/
def genericValue (lang : Language) (outer : Text) : Json → Except Fault Text
  | .str name => .ok (lang.generic outer name)
  | value =>
    if outer.hasSlot ∨ (lang.lexicon.boxes ≠ [] ∧ value.isContainer) then .error .wrongKind
    else .ok (lang.lexicon.brackets.enclose outer value.display)

/-- A list of subtypes; only a text can follow the bound marker. -/
def listOfSubtypesValue (lang : Language) : Json → Except Fault Text
  | .str name => .ok (lang.listOfSubtypes name)
  | _ => .error .wrongKind

/-- The primitive of rule 5, or the value as it is. -/
def orPrimitive (lang : Language) (opts : Options) (declared : DeclaredReturn) (value : Json) :
    Except Fault Json :=
  if declared.mandatory && declared.primitiveAllowed && declared.schemaType.truthy then
    match declared.schemaType with
    | .str schemaType =>
      .ok (((lang.mappedPrimitive? opts schemaType).map Json.str).getD value)
    | _ => .error .wrongKind
  else .ok value

/-- The rules for returns on a value that is no text. -/
def returnTypeOther (lang : Language) (opts : Options) (declared : DeclaredReturn)
    (operation : Text) (value : Json) : Except Fault Json :=
  match subscriptionType? opts operation with
  | some outer => (lang.genericValue outer value).map .str
  | none =>
    if (opts.optionalReturns && !declared.mandatory) || (Text.inForce? opts.returnListType).isSome
    then .error .notAName
    else
      match Text.inForce? opts.returnType with
      | some outer => (lang.genericValue outer value).map .str
      | none => lang.orPrimitive opts declared value

def returnTypeValue (lang : Language) (opts : Options) (declared : DeclaredReturn)
    (operation : Text) : Except Fault Json :=
  match declared.name with
  | .str name =>
    match lang.templatedType? opts operation declared.mandatory name with
    | some type => .ok (.str type)
    | none => lang.orPrimitive opts declared (.str (lang.nullableName opts declared.mandatory name))
  | value => lang.returnTypeOther opts declared operation value

/-! ## Lemmas -/

theorem returnTypeValue_str (lang : Language) (opts : Options) (name schemaType operation : Text)
    (mandatory primitiveAllowed : Bool) :
    lang.returnTypeValue opts ⟨.str name, mandatory, .str schemaType, primitiveAllowed⟩ operation =
      .ok (.str (lang.returnType opts ⟨name, mandatory, some schemaType, primitiveAllowed⟩
        operation)) := by
  simp only [returnTypeValue, returnType]
  cases lang.templatedType? opts operation mandatory name with
  | some type => rfl
  | none =>
    simp only [orPrimitive, Json.truthy, primitiveFor?]
    cases mandatory <;> cases primitiveAllowed <;> cases schemaType <;>
      simp only [Bool.true_and, Bool.false_and, List.isEmpty, Bool.not_true, Bool.not_false,
        if_true, if_false, Bool.false_eq_true, Option.getD_none]
    next c rest =>
      cases lang.mappedPrimitive? opts (c :: rest) <;> rfl

end Language

end TargetTypes
