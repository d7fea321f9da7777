import TargetTypes.Language.Wrapping
import TargetTypes.Operation
import TargetTypes.Options

/-!
# Return types

The type of a field that is the direct return of an operation. The rules, in order:

1. a subscription goes into the subscription type, and nothing else is done to it;
2. a nullable type that is neither list nor optional becomes optional, where options ask for it;
3. a list goes over into the list type for returns;
4. any other type goes into the return type;
5. what no template took is replaced by the primitive its schema type is mapped to.

A rule whose setting is missing or blank is passed over.

    a template decides where one applies                           (returnType_of_templatedType?)
    without one it is the primitive, or the name of rule 2         (returnType_of_not_templated)
-/

namespace TargetTypes

/-- A field's type before the rules: a name of the target language, and the schema type that it
came from. -/
structure ReturnField where
  name : Text
  mandatory : Bool := false
  schemaType : Option Text := none
  primitiveAllowed : Bool := true
deriving DecidableEq, Repr

namespace Language

/-! ## Algorithm -/

/-- The subscription type, where the operation is a subscription. -/
def subscriptionType? (opts : Options) (operation : Text) : Option Text :=
  if operation.upper = Operation.subscription.label then Text.inForce? opts.subscriptionType
  else none

def nullableName (lang : Language) (opts : Options) (mandatory : Bool) (name : Text) : Text :=
  if opts.optionalReturns && !mandatory && !lang.isCollection name && !lang.isOptional name then
    lang.optionalOf name
  else name

/-- A list name over into the list type for returns. -/
def swappedList? (lang : Language) (opts : Options) (name : Text) : Option Text :=
  match Text.inForce? opts.returnListType, lang.parse name with
  | some outer, .list inner _ => some (lang.generic outer (lang.render inner))
  | _, _ => none

def wrappedReturn? (lang : Language) (opts : Options) (name : Text) : Option Text :=
  (Text.inForce? opts.returnType).map fun outer => lang.generic outer name

/-- The type that a template decides, if one does. -/
def templatedType? (lang : Language) (opts : Options) (operation : Text) (mandatory : Bool)
    (name : Text) : Option Text :=
  match subscriptionType? opts operation with
  | some outer => some (lang.generic outer name)
  | none =>
    let nullable := lang.nullableName opts mandatory name
    match lang.swappedList? opts nullable with
    | some swapped => some swapped
    | none => lang.wrappedReturn? opts nullable

/-- The primitive that a schema type, marked `!` as mandatory, is mapped to. -/
def mappedPrimitive? (lang : Language) (opts : Options) (schemaType : Text) : Option Text :=
  (opts.customTypes.lookup (schemaType ++ "!")).filter lang.isPrimitive

def primitiveFor? (lang : Language) (opts : Options) (field : ReturnField) : Option Text :=
  match field.schemaType with
  | some schemaType =>
    if field.mandatory && field.primitiveAllowed && !schemaType.isEmpty then
      lang.mappedPrimitive? opts schemaType
    else none
  | none => none

def returnType (lang : Language) (opts : Options) (field : ReturnField) (operation : Text) : Text :=
  match lang.templatedType? opts operation field.mandatory field.name with
  | some name => name
  | none =>
    (lang.primitiveFor? opts field).getD (lang.nullableName opts field.mandatory field.name)

/-! ## Lemmas -/

theorem returnType_of_templatedType? {lang : Language} {opts : Options} {field : ReturnField}
    {operation type : Text}
    (h : lang.templatedType? opts operation field.mandatory field.name = some type) :
    lang.returnType opts field operation = type := by
  rw [returnType, h]

theorem returnType_of_not_templated {lang : Language} {opts : Options} {field : ReturnField}
    {operation : Text}
    (h : lang.templatedType? opts operation field.mandatory field.name = none) :
    lang.returnType opts field operation =
      (lang.primitiveFor? opts field).getD
        (lang.nullableName opts field.mandatory field.name) := by
  rw [returnType, h]

theorem nullableName_of_isCollection {lang : Language} (opts : Options) (mandatory : Bool)
    {name : Text} (h : lang.isCollection name = true) :
    lang.nullableName opts mandatory name = name := by
  simp [nullableName, h]

end Language

end TargetTypes
