import TargetTypes.Fault
import TargetTypes.Json.Reader
import TargetTypes.Options

/-!
# Reading options

A configuration is an object with known keys. Unknown keys are reported before anything else;
then each entry is read in written order. A null stands for a missing entry, and of two keys
for one setting the later counts.
-/

namespace TargetTypes

namespace Json

def text? : Json → Option Text
  | .str s => some s
  | _ => none

/-- The kind of a value, as it is called in reports. -/
def kind : Json → Text
  | .null => "null"
  | .bool _ => "bool"
  | .int _ => "int"
  | .float _ => "float"
  | .str _ => "str"
  | .arr _ => "list"
  | .obj _ => "dict"

/-- A list of texts. -/
def names? : Json → Option (List Text)
  | .arr items => items.mapM text?
  | _ => none

/-- An object whose values are texts. -/
def table? : Json → Option (List (Text × Text))
  | .obj entries => entries.mapM fun (key, value) => (text? value).map (key, ·)
  | _ => none

end Json

namespace Options

inductive Key where
  | language
  | optionalReturns
  | subscriptionType
  | returnListType
  | returnType
  | modelPrefix
  | modelSuffix
  | scalaEnums
  | enums
  | package
  | modelPackage
  | customTypes
deriving DecidableEq, Repr

namespace Key

def all : List Key := [.language, .optionalReturns, .subscriptionType, .returnListType,
  .returnType, .modelPrefix, .modelSuffix, .scalaEnums, .enums, .package, .modelPackage,
  .customTypes]

/-- The name of the option in a configuration. -/
def label : Key → Text
  | .language => "generatedLanguage"
  | .optionalReturns => "useOptionalForNullableReturnTypes"
  | .subscriptionType => "subscriptionReturnType"
  | .returnListType => "apiReturnListType"
  | .returnType => "apiReturnType"
  | .modelPrefix => "modelNamePrefix"
  | .modelSuffix => "modelNameSuffix"
  | .scalaEnums => "enumImportItSelfInScala"
  | .enums => "enumSelfImportSet"
  | .package => "packageName"
  | .modelPackage => "modelPackageName"
  | .customTypes => "customTypesMapping"

def ofLabel? (label : Text) : Option Key := all.find? fun key => key.label == label

end Key

/-! ## Algorithm -/

/-- Names of options that do not exist, once each, ascending. -/
def unknownNames (names : List Text) : List Text :=
  (names.filter fun name => (Key.ofLabel? name).isNone).eraseDups.mergeSort Text.le

def textOf (key : Key) (value : Json) : Except Fault Text :=
  match value.text? with
  | some text => .ok text
  | none => .error (.notText key.label value.kind)

def namesOf (key : Key) (value : Json) : Except Fault (List Text) :=
  match value.names? with
  | some names => .ok names
  | none => .error (.notTypeNames key.label)

def tableOf (key : Key) (value : Json) : Except Fault (List (Text × Text)) :=
  match value.table? with
  | some table => .ok table
  | none => .error (.notTypeTable key.label)

/-- Takes one option over. Only `true` sets the flag. -/
def set (opts : Options) (key : Key) (value : Json) : Except Fault Options :=
  match key with
  | .language => (textOf key value).map fun text => { opts with language := text }
  | .optionalReturns =>
    .ok { opts with optionalReturns := match value with | .bool flag => flag | _ => false }
  | .subscriptionType =>
    (textOf key value).map fun text => { opts with subscriptionType := some text }
  | .returnListType =>
    (textOf key value).map fun text => { opts with returnListType := some text }
  | .returnType => (textOf key value).map fun text => { opts with returnType := some text }
  | .modelPrefix => (textOf key value).map fun text => { opts with modelPrefix := some text }
  | .modelSuffix => (textOf key value).map fun text => { opts with modelSuffix := some text }
  | .scalaEnums => (namesOf key value).map fun names => { opts with enums := names }
  | .enums => (namesOf key value).map fun names => { opts with enums := names }
  | .package => (textOf key value).map fun text => { opts with package := some text }
  | .modelPackage => (textOf key value).map fun text => { opts with modelPackage := some text }
  | .customTypes => (tableOf key value).map fun table => { opts with customTypes := table }

/-- Takes one entry over; a null leaves all as it is. -/
def setEntry (opts : Options) (entry : Text × Json) : Except Fault Options :=
  match entry.2, Key.ofLabel? entry.1 with
  | .null, _ => .ok opts
  | value, some key => opts.set key value
  | _, none => .ok opts

def ofEntries (entries : List (Text × Json)) : Except Fault Options :=
  match unknownNames (entries.map Prod.fst) with
  | [] => entries.foldlM setEntry {}
  | unknown => .error (.unknownOptions unknown)

/-- Names without values set nothing: unknown ones are reported, known ones are no options. -/
def refuseNames (names : List Text) : Fault :=
  match unknownNames names with
  | [] => .notAnObject
  | unknown => .unknownOptions unknown

def ofJson : Json → Except Fault Options
  | .obj entries => ofEntries entries
  | .arr items =>
    match items.mapM Json.text? with
    | some names => .error (refuseNames names)
    | none => .error .wrongKind
  | .str text => .error (refuseNames (text.map fun c => [c]))
  | _ => .error .wrongKind

/-- The options a configuration file spells. -/
def ofText (text : Plain) : Except Fault Options :=
  match Json.read text with
  | .ok value => ofJson value
  | .error fault => .error fault

/-! ## Lemmas -/

theorem Key.ofLabel?_label (key : Key) : Key.ofLabel? key.label = some key := by
  cases key <;> decide +kernel

end Options

end TargetTypes
