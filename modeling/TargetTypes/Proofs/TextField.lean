import TargetTypes.Proofs.ListField

/-!
# Fields of textual definitions

A definition may give any value for a field. Here its type is a text, and its operation and its
schema type are texts or count as false. Then the only fault left is a missing name, and the
field can be written down in one piece: what the options say comes in at the type, where the
field is the direct return of an operation, and at the companion of an enum.

    a textual definition gives its field, or lacks a name        (ofDefinition_of_textual)
    a list of them gives their fields in order                   (ofDefinitions_of_textual)
-/

namespace TargetTypes

/-- A value that is a text, or counts as false. -/
def Json.TextOrFalsy (value : Json) : Prop := value.truthy = false ∨ ∃ text, value = .str text

namespace Field

/-! ## Algorithm -/

/-- The type of a definition, where it is a text. -/
def declaredName (definition : Json) : Text := ((definition.get? "type").bind Json.text?).getD []

/-- The operation of a definition, where it is a text. -/
def operation? (definition : Json) : Option Text :=
  (definition.getD "operation").text?.filter (!·.isEmpty)

def listedName (lang : Language) (definition : Json) : Text :=
  if (definition.getD "list").truthy then lang.listOf (declaredName definition)
  else declaredName definition

/-- The return that goes through the rules. -/
def returnField (lang : Language) (definition : Json) : ReturnField where
  name := listedName lang definition
  mandatory := (definition.getD "mandatory").truthy
  schemaType := (definition.getD "graphqlType").text?

def typeName (lang : Language) (opts : Options) (definition : Json) : Text :=
  match operation? definition with
  | some operation => lang.returnType opts (returnField lang definition) operation
  | none => listedName lang definition

/-- No option has a say in these. -/
def validationNotes (lang : Language) (definition : Json) : List Text :=
  if (definition.getD "mandatory").truthy && (operation? definition).isNone &&
      !lang.isPrimitive (listedName lang definition) then [notNull]
  else []

/-- The field of a textual definition. -/
def ofTextual (lang : Language) (opts : Options) (definition : Json) : Field where
  name := definition.getD "name"
  type := .str (typeName lang opts definition)
  operation := (operation? definition).map Text.lower
  annotations :=
    validationNotes lang definition ++ lang.enumAnnotations opts (declaredName definition)

/-- Type, operation and schema type are texts; the latter two may be missing. -/
structure Textual (definition : Json) : Prop where
  type : ∃ declared, definition.get? "type" = some (.str declared)
  operation : (definition.getD "operation").TextOrFalsy
  schemaType : (definition.getD "graphqlType").TextOrFalsy

/-! ## Lemmas -/

theorem declaredName_of_get? {definition : Json} {declared : Text}
    (h : definition.get? "type" = some (.str declared)) : declaredName definition = declared := by
  rw [declaredName, h]
  rfl

theorem operation?_of_truthy_eq_false {definition : Json}
    (h : (definition.getD "operation").truthy = false) : operation? definition = none := by
  unfold operation?
  cases hop : definition.getD "operation" with
  | str operation =>
    rw [hop] at h
    have he : operation = [] := by simpa [Json.truthy] using h
    rw [he]
    rfl
  | _ => rfl

theorem operationOf_of_textOrFalsy {definition : Json}
    (h : (definition.getD "operation").TextOrFalsy) :
    operationOf definition = .ok (operation? definition) := by
  cases ht : (definition.getD "operation").truthy with
  | false =>
    rw [operation?_of_truthy_eq_false ht, operationOf]
    simp only [ht, Bool.false_eq_true, if_false]
  | true =>
    have hne : (definition.getD "operation").truthy ≠ false := by
      rw [ht]
      decide
    obtain ⟨operation, hop⟩ := h.resolve_left hne
    cases operation with
    | nil =>
      rw [hop] at ht
      cases ht
    | cons c rest =>
      rw [operationOf_of_str hop (List.cons_ne_nil c rest), operation?, hop]
      rfl

theorem listed_str (lang : Language) (definition : Json) :
    listed lang definition (.str (declaredName definition)) =
      .ok (.str (listedName lang definition)) := by
  unfold listed listedName
  split
  · rfl
  · rfl

theorem resolved_of_textual (lang : Language) (opts : Options) {definition : Json}
    (h : Textual definition) :
    resolved lang opts definition (.str (listedName lang definition)) (operation? definition) =
      .ok (.str (typeName lang opts definition)) := by
  unfold typeName
  cases operation? definition with
  | none => rfl
  | some operation => exact resolved_str lang opts h.schemaType _ operation

/-- Without an operation the type is still the listed name. -/
theorem validation_of_textual (lang : Language) (opts : Options) (definition : Json) :
    validation lang definition (.str (typeName lang opts definition)) (operation? definition) =
      .ok (validationNotes lang definition) := by
  unfold validation validationNotes typeName
  cases operation? definition with
  | some operation => simp
  | none =>
    cases (definition.getD "mandatory").truthy with
    | false => rfl
    | true =>
      cases hp : lang.isPrimitive (listedName lang definition) <;>
        simp [Language.isPrimitiveValue, hp, Except.map]

theorem ofDefinition_of_textual (lang : Language) (opts : Options) {definition : Json}
    (h : Textual definition) :
    ofDefinition lang opts definition =
      (needed "name" definition).map fun name => { ofTextual lang opts definition with name } := by
  obtain ⟨declared, htype⟩ := h.type
  have hneeded : needed "type" definition = .ok (.str (declaredName definition)) := by
    rw [declaredName_of_get? htype]
    exact needed_of_get? htype
  unfold ofDefinition
  simp only [hneeded, listed_str, operationOf_of_textOrFalsy h.operation,
    resolved_of_textual lang opts h, bind, Except.bind]
  cases needed "name" definition with
  | error fault => rfl
  | ok name =>
    simp only [validation_of_textual]
    rfl

/-- With a name there is no fault left. -/
theorem ofDefinition_of_name (lang : Language) (opts : Options) {definition : Json}
    (h : Textual definition) (hname : (definition.get? "name").isSome = true) :
    ofDefinition lang opts definition = .ok (ofTextual lang opts definition) := by
  obtain ⟨name, hget⟩ := Option.isSome_iff_exists.mp hname
  have hname : definition.getD "name" = name := by rw [Json.getD, hget, Option.getD_some]
  rw [ofDefinition_of_textual lang opts h, needed_of_get? hget, ← hname]
  rfl

theorem ofDefinitions_of_textual (lang : Language) (opts : Options) {definitions : List Json}
    (h : ∀ definition ∈ definitions,
      Textual definition ∧ (definition.get? "name").isSome = true) :
    ofDefinitions lang opts definitions = .ok (definitions.map (ofTextual lang opts)) := by
  unfold ofDefinitions
  induction definitions with
  | nil => rfl
  | cons definition rest ih =>
    obtain ⟨htextual, hname⟩ := h definition List.mem_cons_self
    rw [List.mapM_cons, ofDefinition_of_name lang opts htextual hname,
      ih fun d hm => h d (List.mem_cons_of_mem _ hm)]
    rfl

end Field

end TargetTypes
