import TargetTypes.Annotation
import TargetTypes.Json.Reader
import TargetTypes.Language.Value

/-!
# Fields

A definition is an object: `type` and `name` must be there, `list`, `mandatory`, `operation` and
`graphqlType` may be. A list is wrapped first; the direct return of an operation then goes
through the rules for returns. The first fault on the way counts: `type` is looked up first,
`name` after the type is resolved, annotations come last.
-/

namespace TargetTypes

structure Field where
  name : Json
  type : Json
  /-- The operation it is the direct return of, in lower case. -/
  operation : Option Text
  annotations : List Text

namespace Field

/-! ## Algorithm -/

def needed (key : Text) (definition : Json) : Except Fault Json :=
  match definition with
  | .obj entries =>
    match entries.lookup key with
    | some value => .ok value
    | none => .error (.missingKey key)
  | _ => .error .wrongKind

/-- The declared type, in a list where the definition says so. -/
def listed (lang : Language) (definition declared : Json) : Except Fault Json :=
  if (definition.getD "list").truthy then
    (lang.genericValue lang.lexicon.listMarker declared).map .str
  else .ok declared

/-- The operation of a definition; none where it is missing or empty. -/
def operationOf (definition : Json) : Except Fault (Option Text) :=
  let operation := definition.getD "operation"
  if operation.truthy then operation.asName.map some else .ok none

def resolved (lang : Language) (opts : Options) (definition type : Json) :
    Option Text → Except Fault Json
  | none => .ok type
  | some operation =>
    lang.returnTypeValue opts
      ⟨type, (definition.getD "mandatory").truthy, definition.getD "graphqlType", true⟩ operation

/-- Mandatory model fields of a type that is no primitive must not be null. -/
def validation (lang : Language) (definition type : Json) (operation : Option Text) :
    Except Fault (List Text) :=
  if (definition.getD "mandatory").truthy && operation.isNone then
    (lang.isPrimitiveValue type).map fun primitive =>
      if primitive then [] else [notNull]
  else .ok []

def ofDefinition (lang : Language) (opts : Options) (definition : Json) : Except Fault Field := do
  let declared ← needed "type" definition
  let listedType ← listed lang definition declared
  let operation ← operationOf definition
  let type ← resolved lang opts definition listedType operation
  let name ← needed "name" definition
  let annotations ← validation lang definition type operation
  return {
    name, type
    operation := operation.map Text.lower
    annotations := annotations ++ lang.enumAnnotations opts declared.display }

/-- All fields in order, or the first fault. -/
def ofDefinitions (lang : Language) (opts : Options) (definitions : List Json) :
    Except Fault (List Field) :=
  definitions.mapM (ofDefinition lang opts)

end Field

/-- The definitions a file spells; `path` is named in the report. -/
def definitionsOfText (path : Text) (text : Plain) : Except Fault (List Json) :=
  match Json.read text with
  | .ok (.arr definitions) => .ok definitions
  | .ok _ => .error (.notDefinitions path)
  | .error fault => .error fault

end TargetTypes
