import TargetTypes.Field

/-!
# The preview

A headline with the language and the number of fields; then for each field a blank line, its
annotations, and a line with operation, name and type. Texts are written as they are.
-/

namespace TargetTypes

/-- What the preview shows of a field. An empty operation is none. -/
structure Block where
  annotations : List Text
  operation : Text
  name : Text
  type : Text
deriving DecidableEq, Repr

namespace Block

def noteLine (note : Text) : Text := "@" ++ note ++ "\n"

def head (block : Block) : Text :=
  if block.operation = [] then [] else block.operation ++ " "

def line (block : Block) : Text := block.head ++ block.name ++ ": " ++ block.type ++ "\n"

def text (block : Block) : Text := "\n" ++ block.annotations.flatMap noteLine ++ block.line

end Block

namespace Preview

/-! ## Algorithm -/

def headline (language count : Text) : Text :=
  "// Resolved " ++ language ++ " types (" ++ count ++ " fields)\n"

def page (language count : Text) (blocks : List Block) : Text :=
  headline language count ++ blocks.flatMap Block.text

def blockOf (field : Field) : Block where
  annotations := field.annotations
  operation := field.operation.getD []
  name := field.name.display
  type := field.type.display

def ofFields (lang : Language) (fields : List Field) : Text :=
  page lang.label (Text.ofNat fields.length) (fields.map blockOf)

/-! ## Contexts of any shape -/

/-- The text of an entry; a missing one is empty. -/
def shown (key : Text) (value : Json) : Text :=
  match value.get? key with
  | some entry => entry.display
  | none => []

/-- What a value holds, one after the other: items, keys or characters. -/
def members : Json → Except Fault (List Json)
  | .arr items => .ok items
  | .obj entries => .ok (entries.map fun entry => .str entry.1)
  | .str text => .ok (text.map fun c => .str [c])
  | _ => .error .wrongKind

/-- What an entry holds; a missing one holds nothing. -/
def membersAt (key : Text) (value : Json) : Except Fault (List Json) :=
  match value.get? key with
  | some entry => members entry
  | none => .ok []

def blockOfJson (field : Json) : Except Fault Block := do
  let annotations ← membersAt "annotations" field
  return {
    annotations := annotations.map Json.display
    operation := if (field.getD "operation").truthy then shown "operation" field else []
    name := shown "name" field
    type := shown "type" field }

/-- The page of a context given by its entries. The name `self` is taken. -/
def ofJson (context : Json) : Except Fault Text := do
  if (context.get? "self").isSome then throw .wrongKind
  let fields ← membersAt "fields" context
  let blocks ← fields.mapM blockOfJson
  return page (shown "language" context) (shown "field_count" context) blocks

end Preview

end TargetTypes
