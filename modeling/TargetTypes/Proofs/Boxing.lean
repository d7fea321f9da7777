import Mathlib.Data.List.Infix
import TargetTypes.Proofs.TextField

/-!
# No primitive alone in brackets

Where every primitive has a box, none of them may be the whole argument of a generic, as in `<int>`.
A balanced name without one stays without one on its way through the rules: each rule boxes what it
puts into brackets, and balance keeps the brackets of the rule from closing over a piece of the
name. Rule 3 writes the element again and boxes the primitive below it.

    brackets around a name that is no primitive make none          (boxed_enclose)
    writing the element of a list again makes none          (boxed_renderArgument)
    the rules for returns make none                             (boxed_returnType)
    so none is in the type of a field                        (boxed_type_of_boxed)
-/

namespace TargetTypes

namespace Lexicon

/-- Nowhere a primitive is all that stands between two brackets. -/
def Boxed (lex : Lexicon) (name : Text) : Prop :=
  ∀ p ∈ lex.primitives, ¬ lex.brackets.enclose [] p <:+: name

instance (lex : Lexicon) (name : Text) : Decidable (lex.Boxed name) :=
  List.decidableBAll (fun p => ¬ lex.brackets.enclose [] p <:+: name) lex.primitives

/-- Every primitive has a box. -/
def BoxesAll (lex : Lexicon) : Prop := ∀ p ∈ lex.primitives, lex.box p ∉ lex.primitives

theorem Boxed.of_part {lex : Lexicon} {part name : Text} (hname : lex.Boxed name)
    (hpart : part <:+: name) : lex.Boxed part :=
  fun p hp hin => hname p hp (hin.trans hpart)

namespace Legible

open TypeExpr

variable {lex : Lexicon} (h : lex.Legible)

include h

/-! ## Names in brackets -/

theorem boxed_unbracketed_append {outer name : Text} (houter : lex.brackets.Unbracketed outer)
    (hname : lex.Boxed name) : lex.Boxed (outer ++ name) := by
  obtain ⟨o, -, ho, -⟩ := h.paired.chars
  induction outer with
  | nil => exact hname
  | cons x rest ih =>
    intro p hp hin
    rw [List.cons_append, List.infix_cons_iff] at hin
    rcases hin with hfirst | hin
    · -- the brackets around `p` would open with a character that is no bracket
      rw [Brackets.enclose, ho, List.nil_append, List.singleton_append, List.cons_append,
        List.cons_prefix_cons] at hfirst
      apply (houter x List.mem_cons_self).1
      rw [ho, hfirst.1]
    · exact ih (fun y hy => houter y (List.mem_cons_of_mem _ hy)) p hp hin

theorem boxed_of_unbracketed {name : Text} (hname : lex.brackets.Unbracketed name) :
    lex.Boxed name := by
  have hnil : lex.Boxed [] := by
    intro p _ hin
    obtain ⟨o, hmem, -⟩ := Brackets.exists_opening_mem_enclose h.paired [] p
    rw [List.infix_nil.mp hin] at hmem
    cases hmem
  have := h.boxed_unbracketed_append hname hnil
  rwa [List.append_nil] at this

/-- What the bracket behind a balanced name closes, if it begins with the name, is all of it. -/
theorem eq_of_prefix_append_closing {p argument : Text} (hp : lex.brackets.Unbracketed p)
    (hb : lex.brackets.balanced argument = true)
    (hfirst : p ++ lex.brackets.closing <+: argument ++ lex.brackets.closing) : argument = p := by
  obtain ⟨-, c, -, hc, -⟩ := h.paired.chars
  rw [hc, List.prefix_concat_iff] at hfirst
  rcases hfirst with he | ⟨rest, rfl⟩
  · exact (List.append_left_inj [c]).mp he.symm
  · rw [← hc, Brackets.balanced_closed h.paired hp] at hb
    cases hb

/-- The bracket behind a balanced name closes nothing that opens in the name. -/
theorem boxed_append_closing {argument : Text} (hb : lex.brackets.balanced argument = true)
    (hargument : lex.Boxed argument) : lex.Boxed (argument ++ lex.brackets.closing) := by
  obtain ⟨-, c, -, hc, -⟩ := h.paired.chars
  intro p hp hin
  rw [hc, List.infix_concat_iff] at hin
  rcases hin with hlast | hin
  · rw [Brackets.enclose, hc, List.suffix_append_inj_of_length_eq rfl] at hlast
    obtain ⟨⟨front, rfl⟩, -⟩ := hlast
    rw [List.nil_append, ← List.append_assoc, Brackets.balanced,
      Brackets.balancedFrom_opened h.paired (h.unbracketed_primitive hp)] at hb
    cases hb
  · exact hargument p hp hin

theorem boxed_enclose {outer argument : Text} (houter : lex.brackets.Unbracketed outer)
    (hb : lex.brackets.balanced argument = true) (hprimitive : argument ∉ lex.primitives)
    (hargument : lex.Boxed argument) : lex.Boxed (lex.brackets.enclose outer argument) := by
  obtain ⟨o, -, ho, -⟩ := h.paired.chars
  rw [Brackets.enclose, List.append_assoc, List.append_assoc]
  apply h.boxed_unbracketed_append houter
  intro p hp hin
  rw [ho, List.singleton_append, List.infix_cons_iff] at hin
  rcases hin with hfirst | hin
  · -- the brackets around `p` open with the new one
    rw [Brackets.enclose, ho, List.nil_append, List.singleton_append, List.cons_append,
      List.cons_prefix_cons] at hfirst
    apply hprimitive
    rw [h.eq_of_prefix_append_closing (h.unbracketed_primitive hp) hb hfirst.2]
    exact hp
  · exact h.boxed_append_closing hb hargument p hp hin

theorem boxed_box {name : Text} (hname : lex.Boxed name) : lex.Boxed (lex.box name) := by
  rcases h.box_cases name with he | ⟨-, hfree⟩
  · rwa [he]
  · exact h.boxed_of_unbracketed hfree

/-! ## Expressions in a generic -/

section

variable (hboxes : lex.BoxesAll)

include hboxes

theorem box_not_primitive (name : Text) : lex.box name ∉ lex.primitives := by
  by_cases hp : name ∈ lex.primitives
  · exact hboxes name hp
  · rwa [h.box_of_not_primitive hp]

theorem renderArgument_not_primitive {enclosed : Bool} {type : TypeExpr}
    (hw : type.WellFormedIn lex enclosed) : type.renderArgument lex ∉ lex.primitives := by
  cases type with
  | primitive name => exact h.box_not_primitive hboxes name
  | named name => exact hw.1.not_primitive
  | optional inner marker =>
    rw [renderArgument, h.renderIn_optional true hw.1]
    exact h.enclose_not_primitive _ _
  | list inner marker =>
    rw [renderArgument, h.renderIn_list true hw.1]
    exact h.enclose_not_primitive _ _
  | bounded inner => exact h.bound_not_primitive _

/-- The leaf is all that can go wrong, and as a primitive it is boxed itself. -/
theorem boxed_renderArgument {type : TypeExpr} (hw : type.WellFormedIn lex true)
    (hleaf : lex.Boxed (type.leaf.render lex)) : lex.Boxed (type.renderArgument lex) := by
  induction type with
  | primitive name =>
    exact h.boxed_box (h.boxed_of_unbracketed (h.unbracketed_primitive hw.1))
  | named name => exact hleaf
  | optional inner marker ih =>
    rw [renderArgument, h.renderIn_optional true hw.1]
    exact h.boxed_enclose (h.unbracketed_writtenMarker_optional hw.1)
      (h.balanced_renderIn true hw.2) (h.renderArgument_not_primitive hboxes hw.2) (ih hw.2 hleaf)
  | list inner marker ih =>
    rw [renderArgument, h.renderIn_list true hw.1]
    exact h.boxed_enclose (h.unbracketed_writtenMarker_list hw.1)
      (h.balanced_renderIn true hw.2) (h.renderArgument_not_primitive hboxes hw.2) (ih hw.2 hleaf)
  | bounded inner ih => exact h.boxed_unbracketed_append h.unbracketed_bound (ih hw hleaf)

end

/-- The leaf of what is read is a piece of the name. -/
theorem boxed_leaf_parse {name : Text} (hname : lex.Boxed name) :
    lex.Boxed ((parse lex name).leaf.render lex) :=
  hname.of_part
    ⟨(parse lex name).before lex, (parse lex name).after lex,
      (h.restorable.eq_surrounded name).symm⟩

end Legible

end Lexicon

namespace Options

/-- A template in force, if there is one, is a plain name: no bracket and no slot is in it. -/
def PlainTemplates (lang : Language) (opts : Options) : Prop :=
  ∀ setting ∈ [opts.subscriptionType, opts.returnListType, opts.returnType],
    ∀ outer, Text.inForce? setting = some outer →
      lang.lexicon.brackets.Unbracketed outer ∧ ¬ ("%s" : Text) <:+: outer

end Options

namespace Language

/-! ## The rules -/

theorem generic_eq_enclose {lang : Language} {outer : Text} (hslot : ¬ ("%s" : Text) <:+: outer)
    (name : Text) :
    lang.generic outer name = lang.lexicon.brackets.enclose outer (lang.lexicon.box name) := by
  apply lang.lexicon.generic_of_not_hasSlot
  rw [← Bool.not_eq_true, Text.hasSlot_iff]
  exact hslot

theorem balanced_nullableName (lang : Language) (opts : Options) (mandatory : Bool) {name : Text}
    (hb : lang.lexicon.brackets.balanced name = true) :
    lang.lexicon.brackets.balanced (lang.nullableName opts mandatory name) = true := by
  unfold nullableName
  split
  · exact lang.balanced_optionalOf hb
  · exact hb

theorem inForce?_of_subscriptionType? {opts : Options} {operation outer : Text}
    (h : subscriptionType? opts operation = some outer) :
    Text.inForce? opts.subscriptionType = some outer := by
  unfold subscriptionType? at h
  split at h
  · exact h
  · cases h

section

variable {lang : Language} (hboxes : lang.lexicon.BoxesAll)

include hboxes

theorem boxed_generic {outer name : Text} (houter : lang.lexicon.brackets.Unbracketed outer)
    (hslot : ¬ ("%s" : Text) <:+: outer) (hb : lang.lexicon.brackets.balanced name = true)
    (hname : lang.lexicon.Boxed name) : lang.lexicon.Boxed (lang.generic outer name) := by
  rw [generic_eq_enclose hslot]
  exact lang.legible.boxed_enclose houter (lang.balanced_box hb)
    (lang.legible.box_not_primitive hboxes name) (lang.legible.boxed_box hname)

theorem boxed_listOf {name : Text} (hb : lang.lexicon.brackets.balanced name = true)
    (hname : lang.lexicon.Boxed name) : lang.lexicon.Boxed (lang.listOf name) :=
  boxed_generic hboxes (lang.legible.unbracketed_marker lang.listMarker_mem_markers)
    (lang.legible.restorable.no_slot _ lang.listMarker_mem_markers) hb hname

theorem boxed_optionalOf {name : Text} (hb : lang.lexicon.brackets.balanced name = true)
    (hname : lang.lexicon.Boxed name) : lang.lexicon.Boxed (lang.optionalOf name) :=
  boxed_generic hboxes (lang.legible.unbracketed_marker lang.optionalMarker_mem_markers)
    (lang.legible.restorable.no_slot _ lang.optionalMarker_mem_markers) hb hname

theorem boxed_nullableName (opts : Options) (mandatory : Bool) {name : Text}
    (hb : lang.lexicon.brackets.balanced name = true) (hname : lang.lexicon.Boxed name) :
    lang.lexicon.Boxed (lang.nullableName opts mandatory name) := by
  unfold nullableName
  split
  · exact boxed_optionalOf hboxes hb hname
  · exact hname

theorem boxed_swappedList? {opts : Options} (hplain : opts.PlainTemplates lang) {name type : Text}
    (hname : lang.lexicon.Boxed name) (h : lang.swappedList? opts name = some type) :
    lang.lexicon.Boxed type := by
  unfold swappedList? at h
  split at h
  · next outer inner marker houter hread =>
    obtain ⟨hfree, hslot⟩ := hplain opts.returnListType (by simp) outer houter
    have hw : (TypeExpr.list inner marker).WellFormed lang.lexicon := by
      rw [← hread]
      exact lang.legible.wellFormed_parse name
    have hleaf : lang.lexicon.Boxed (inner.leaf.render lang.lexicon) := by
      have := lang.legible.boxed_leaf_parse hname
      rwa [← parse, hread] at this
    -- the element is written, and boxed where it is a primitive
    have hargument : lang.lexicon.box (lang.render inner) = inner.renderArgument lang.lexicon :=
      lang.legible.box_render hw.2
    rw [Option.some.injEq, generic_eq_enclose hslot, hargument] at h
    rw [← h]
    exact lang.legible.boxed_enclose hfree (lang.legible.balanced_renderIn true hw.2)
      (lang.legible.renderArgument_not_primitive hboxes hw.2)
      (lang.legible.boxed_renderArgument hboxes hw.2 hleaf)
  · cases h

theorem boxed_templatedType? {opts : Options} (hplain : opts.PlainTemplates lang)
    {operation : Text} {mandatory : Bool} {name type : Text}
    (hb : lang.lexicon.brackets.balanced name = true) (hname : lang.lexicon.Boxed name)
    (h : lang.templatedType? opts operation mandatory name = some type) :
    lang.lexicon.Boxed type := by
  unfold templatedType? at h
  split at h
  · next outer houter =>
    obtain ⟨hfree, hslot⟩ :=
      hplain opts.subscriptionType (by simp) outer (inForce?_of_subscriptionType? houter)
    rw [← Option.some.inj h]
    exact boxed_generic hboxes hfree hslot hb hname
  · have hnullable := boxed_nullableName hboxes opts mandatory hb hname
    dsimp only at h
    split at h
    · next swapped hswapped =>
      rw [← Option.some.inj h]
      exact boxed_swappedList? hboxes hplain hnullable hswapped
    · obtain ⟨outer, houter, rfl⟩ := Option.map_eq_some_iff.mp h
      obtain ⟨hfree, hslot⟩ := hplain opts.returnType (by simp) outer houter
      exact boxed_generic hboxes hfree hslot (lang.balanced_nullableName opts mandatory hb)
        hnullable

theorem boxed_returnType {opts : Options} (hplain : opts.PlainTemplates lang) (field : ReturnField)
    (operation : Text) (hb : lang.lexicon.brackets.balanced field.name = true)
    (hname : lang.lexicon.Boxed field.name) :
    lang.lexicon.Boxed (lang.returnType opts field operation) := by
  unfold returnType
  split
  · next type htype => exact boxed_templatedType? hboxes hplain hb hname htype
  · cases hp : lang.primitiveFor? opts field with
    | some primitive =>
      exact lang.legible.boxed_of_unbracketed
        (lang.legible.unbracketed_primitive (mem_primitives_of_primitiveFor? hp))
    | none => exact boxed_nullableName hboxes opts field.mandatory hb hname

end

theorem boxesAll_java : Language.java.lexicon.BoxesAll := by
  unfold Lexicon.BoxesAll
  decide

end Language

namespace Field

/-! ## Fields -/

theorem boxed_typeName {lang : Language} (hboxes : lang.lexicon.BoxesAll) {opts : Options}
    (hplain : opts.PlainTemplates lang) {definition : Json}
    (hb : lang.lexicon.brackets.balanced (declaredName definition) = true)
    (hname : lang.lexicon.Boxed (declaredName definition)) :
    lang.lexicon.Boxed (typeName lang opts definition) := by
  have hlisted : lang.lexicon.brackets.balanced (listedName lang definition) = true ∧
      lang.lexicon.Boxed (listedName lang definition) := by
    unfold listedName
    split
    · exact ⟨lang.balanced_listOf hb, Language.boxed_listOf hboxes hb hname⟩
    · exact ⟨hb, hname⟩
  unfold typeName
  split
  · next operation hoperation =>
    exact Language.boxed_returnType hboxes hplain _ operation hlisted.1 hlisted.2
  · exact hlisted.2

/-- Where templates are plain names, a declared type that is balanced and has no primitive alone in
brackets gives, with a name, a field whose type has none either, whatever the definition says of
lists, of mandatory values and of its schema type. -/
theorem boxed_type_of_boxed {opts : Options} (hplain : opts.PlainTemplates .java)
    {definition : Json} {declared : Text} (htype : definition.get? "type" = some (.str declared))
    (hbalanced : Language.java.lexicon.brackets.balanced declared = true)
    (hboxed : Language.java.lexicon.Boxed declared)
    (hoperation : (definition.getD "operation").TextOrFalsy)
    (hschema : (definition.getD "graphqlType").TextOrFalsy) :
    ∃ type, (ofDefinition .java opts definition).map Field.type =
        (needed "name" definition).map (fun _ => .str type) ∧
      Language.java.lexicon.Boxed type := by
  have hdeclared : declaredName definition = declared := declaredName_of_get? htype
  refine ⟨typeName .java opts definition, ?_, ?_⟩
  · rw [ofDefinition_of_textual .java opts ⟨⟨declared, htype⟩, hoperation, hschema⟩]
    cases needed "name" definition with
    | error fault => rfl
    | ok name => rfl
  · apply boxed_typeName Language.boxesAll_java hplain
    · rwa [hdeclared]
    · rwa [hdeclared]

/-- A query for a list of optional integers, the integer only as a bound. -/
def boundedInts : Json :=
  .obj [("name", .str "ids"), ("type", .str "java.util.Optional<? extends int>"),
    ("list", .bool true), ("operation", .str "QUERY")]

/-- The element of the list goes over into the list type for returns with its primitive boxed. -/
theorem boxed_type_of_boundedInts :
    Options.PlainTemplates .java { returnListType := some "Flux" } ∧
      Language.java.lexicon.brackets.balanced "java.util.Optional<? extends int>" = true ∧
      Language.java.lexicon.Boxed "java.util.Optional<? extends int>" ∧
      ∃ type, (ofDefinition .java { returnListType := some "Flux" } boundedInts).map Field.type =
          (needed "name" boundedInts).map (fun _ => .str type) ∧
        Language.java.lexicon.Boxed type := by
  have hplain : Options.PlainTemplates .java { returnListType := some "Flux" } := by
    intro setting hm outer h
    obtain ⟨he, -⟩ := Text.inForce?_eq_some_iff.mp h
    have houter : outer = ("Flux" : Text) := by simpa [he] using hm
    rw [houter]
    decide
  have hbalanced : Language.java.lexicon.brackets.balanced "java.util.Optional<? extends int>" =
      true := by decide +kernel
  have hboxed : Language.java.lexicon.Boxed "java.util.Optional<? extends int>" := by
    decide +kernel
  exact ⟨hplain, hbalanced, hboxed,
    boxed_type_of_boxed hplain rfl hbalanced hboxed (Or.inr ⟨"QUERY", rfl⟩) (Or.inl rfl)⟩

end Field

end TargetTypes
