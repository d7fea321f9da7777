import Mathlib.Data.Set.Function
import TargetTypes.Proofs.Surroundings

/-!
# Well-formed type expressions

The expressions that reading gives. In a well-formed one primitives are the language's, plain
names read as nothing else, markers are aliases of the right kind, and a name below a list or an
optional is balanced. In a legible lexicon reading and writing go back and forth between texts
and these, but for the boxes of primitives.

    reading gives a well-formed expression                              (wellFormedIn_parse)
    only balanced names read as what can stand in brackets  (balanced_of_wellFormedIn_parse)
    reading undoes writing, up to the leaf                                   (parse_renderIn)
    reading undoes writing on well-formed expressions, up to boxes             (parse_render)
-/

namespace TargetTypes

theorem Lexicon.mem_boxes_of_lookup {lex : Lexicon} {name boxed : Text}
    (h : lex.boxes.lookup name = some boxed) : (name, boxed) ∈ lex.boxes := by
  obtain ⟨front, back, hboxes, -⟩ := List.lookup_eq_some_iff.mp h
  rw [hboxes]
  simp

/-- A text that reads as a plain name: no primitive, no bound, no list and no optional. -/
structure Lexicon.Plain (lex : Lexicon) (name : Text) : Prop where
  not_primitive : name ∉ lex.primitives
  not_bound : ¬ lex.boundMarker <+: name
  not_enclosed : ∀ marker ∈ lex.markers, ∀ argument, lex.brackets.balanced argument = true →
    name ≠ lex.brackets.enclose marker argument

namespace TypeExpr

/-- Well formed where `enclosed` says whether a list or an optional stands around. -/
def WellFormedIn (lex : Lexicon) (enclosed : Bool) : TypeExpr → Prop
  | .primitive name =>
    name ∈ lex.primitives ∧ (enclosed = true → lex.brackets.balanced name = true)
  | .named name => lex.Plain name ∧ (enclosed = true → lex.brackets.balanced name = true)
  | .optional inner marker =>
    (∀ m ∈ marker, m ∈ lex.optionalAliases) ∧ inner.WellFormedIn lex true
  | .list inner marker => (∀ m ∈ marker, m ∈ lex.listAliases) ∧ inner.WellFormedIn lex true
  | .bounded inner => inner.WellFormedIn lex enclosed

def WellFormed (lex : Lexicon) (type : TypeExpr) : Prop := type.WellFormedIn lex false

/-- The expression around another innermost name. -/
def withLeaf : TypeExpr → TypeExpr → TypeExpr
  | .primitive _, name => name
  | .named _, name => name
  | .optional inner marker, name => .optional (inner.withLeaf name) marker
  | .list inner marker, name => .list (inner.withLeaf name) marker
  | .bounded inner, name => .bounded (inner.withLeaf name)

/-! ## Lemmas -/

theorem withLeaf_leaf (type : TypeExpr) : type.withLeaf type.leaf = type := by
  induction type with
  | primitive name => rfl
  | named name => rfl
  | optional inner marker ih => rw [leaf, withLeaf, ih]
  | list inner marker ih => rw [leaf, withLeaf, ih]
  | bounded inner ih => rw [leaf, withLeaf, ih]

theorem leaf_withLeaf (type name : TypeExpr) : (type.withLeaf name).leaf = name.leaf := by
  induction type with
  | primitive _ => rfl
  | named _ => rfl
  | optional inner marker ih => exact ih
  | list inner marker ih => exact ih
  | bounded inner ih => exact ih

theorem WellFormedIn.leaf_wellFormed {lex : Lexicon} {enclosed : Bool} {type : TypeExpr}
    (hw : type.WellFormedIn lex enclosed) : type.leaf.WellFormed lex := by
  induction type generalizing enclosed with
  | primitive name => exact ⟨hw.1, Bool.false_ne_true.elim⟩
  | named name => exact ⟨hw.1, Bool.false_ne_true.elim⟩
  | optional inner marker ih => exact ih hw.2
  | list inner marker ih => exact ih hw.2
  | bounded inner ih => exact ih hw

end TypeExpr

namespace Lexicon.Legible

open TypeExpr

variable {lex : Lexicon} (h : lex.Legible)

include h

/-! ### Names that read as themselves -/

theorem unwrap?_eq_none_of_not_enclosed {name : Text}
    (hne : ∀ marker ∈ lex.markers, ∀ argument, lex.brackets.balanced argument = true →
      name ≠ lex.brackets.enclose marker argument)
    {markers : List Text} (hsub : markers ⊆ lex.markers) : lex.unwrap? markers name = none := by
  cases hu : lex.unwrap? markers name with
  | none => rfl
  | some found =>
    obtain ⟨marker, argument⟩ := found
    obtain ⟨hm, ha⟩ := argument?_of_unwrap? hu
    exact absurd (eq_enclose_of_unwrap? h.restorable hsub hu)
      (hne marker (hsub hm) argument (Brackets.balanced_of_argument? ha))

theorem parse_plain {name : Text} (hp : lex.Plain name) : parse lex name = .named name := by
  rw [parse_of_not_list (unbound?_eq_none hp.not_bound)
      (h.unwrap?_eq_none_of_not_enclosed hp.not_enclosed lex.listMarkers_subset),
    h.unwrap?_eq_none_of_not_enclosed hp.not_enclosed lex.optionalMarkers_subset]
  exact if_neg hp.not_primitive

theorem parse_primitive {name : Text} (hp : name ∈ lex.primitives) :
    parse lex name = .primitive name := by
  have hbound : ¬ lex.boundMarker <+: name := by
    apply h.unbound
    simp [hp]
  have hne : ∀ marker ∈ lex.markers, ∀ argument, lex.brackets.balanced argument = true →
      name ≠ lex.brackets.enclose marker argument := fun marker _ argument _ =>
    Brackets.ne_enclose_of_unbracketed h.paired (h.unbracketed_primitive hp) marker argument
  rw [parse_of_not_list (unbound?_eq_none hbound)
      (h.unwrap?_eq_none_of_not_enclosed hne lex.listMarkers_subset),
    h.unwrap?_eq_none_of_not_enclosed hne lex.optionalMarkers_subset]
  exact if_pos hp

theorem plain_of_not_unwrapped {name : Text} (hb : lex.unbound? name = none)
    (hl : lex.unwrap? lex.listMarkers name = none)
    (ho : lex.unwrap? lex.optionalMarkers name = none) (hp : name ∉ lex.primitives) :
    lex.Plain name where
  not_primitive := hp
  not_bound := by
    rintro ⟨rest, rfl⟩
    rw [unbound?_append h.bound_ne_nil] at hb
    cases hb
  not_enclosed := by
    rintro marker hm argument hbal rfl
    rcases List.mem_append.mp hm with hm | hm
    · rw [h.unwrap?_enclose lex.listMarkers_subset hm hbal] at hl
      cases hl
    · rw [h.unwrap?_enclose lex.optionalMarkers_subset hm hbal] at ho
      cases ho

/-- A primitive without a box of its own is its own; a box is a plain name. -/
theorem box_cases (name : Text) :
    lex.box name = name ∨
      lex.Plain (lex.box name) ∧ lex.brackets.Unbracketed (lex.box name) := by
  unfold box
  cases hl : lex.boxes.lookup name with
  | none => exact Or.inl rfl
  | some v =>
    have hentry := mem_boxes_of_lookup hl
    have hv : v ∈ lex.boxes.map Prod.snd := List.mem_map.mpr ⟨(name, v), hentry, rfl⟩
    have hfree : lex.brackets.Unbracketed v := by
      apply h.unbracketed
      exact List.mem_append_right _ hv
    refine Or.inr ⟨⟨(h.boxes_primitive _ hentry).2, ?_, fun marker _ argument _ => ?_⟩, hfree⟩
    · apply h.unbound
      exact List.mem_append_right _ hv
    · exact Brackets.ne_enclose_of_unbracketed h.paired hfree marker argument

theorem enclose_not_primitive (outer argument : Text) :
    lex.brackets.enclose outer argument ∉ lex.primitives := fun hp =>
  Brackets.ne_enclose_of_unbracketed h.paired (h.unbracketed_primitive hp) outer argument rfl

theorem bound_not_primitive (rest : Text) : lex.boundMarker ++ rest ∉ lex.primitives := by
  intro hp
  apply h.unbound (lex.boundMarker ++ rest)
  · simp [hp]
  · exact List.prefix_append _ _

theorem box_of_not_primitive {name : Text} (hp : name ∉ lex.primitives) : lex.box name = name := by
  have hl : lex.boxes.lookup name = none := by
    rw [List.lookup_eq_none_iff]
    intro entry hentry
    rw [bne_iff_ne]
    rintro rfl
    exact hp (h.boxes_primitive entry hentry).1
  rw [box, hl]
  rfl

theorem box_box (name : Text) : lex.box (lex.box name) = lex.box name := by
  rcases h.box_cases name with he | ⟨hplain, -⟩
  · rw [he]
    exact he
  · exact h.box_of_not_primitive hplain.not_primitive

/-! ### Writing well-formed expressions -/

theorem keptMarker_list {marker : Option Text} (hm : ∀ m ∈ marker, m ∈ lex.listAliases) :
    writtenMarker lex.listMarker marker ∈ lex.listMarkers ∧
      keptMarker lex.listMarker (writtenMarker lex.listMarker marker) = marker :=
  keptMarker_writtenMarker (fun m ha => h.alias_ne_nil m (List.mem_append_left _ ha))
    h.list_not_alias hm

theorem keptMarker_optional {marker : Option Text} (hm : ∀ m ∈ marker, m ∈ lex.optionalAliases) :
    writtenMarker lex.optionalMarker marker ∈ lex.optionalMarkers ∧
      keptMarker lex.optionalMarker (writtenMarker lex.optionalMarker marker) = marker :=
  keptMarker_writtenMarker (fun m ha => h.alias_ne_nil m (List.mem_append_right _ ha))
    h.optional_not_alias hm

theorem unbracketed_writtenMarker_list {marker : Option Text}
    (hm : ∀ m ∈ marker, m ∈ lex.listAliases) :
    lex.brackets.Unbracketed (writtenMarker lex.listMarker marker) :=
  h.unbracketed_marker (lex.listMarkers_subset (h.keptMarker_list hm).1)

theorem unbracketed_writtenMarker_optional {marker : Option Text}
    (hm : ∀ m ∈ marker, m ∈ lex.optionalAliases) :
    lex.brackets.Unbracketed (writtenMarker lex.optionalMarker marker) :=
  h.unbracketed_marker (lex.optionalMarkers_subset (h.keptMarker_optional hm).1)

theorem renderIn_list (inGeneric : Bool) {inner : TypeExpr} {marker : Option Text}
    (hm : ∀ m ∈ marker, m ∈ lex.listAliases) :
    renderIn lex inGeneric (.list inner marker) =
      lex.brackets.enclose (writtenMarker lex.listMarker marker) (renderIn lex true inner) :=
  h.restorable.generic_marker (lex.listMarkers_subset (h.keptMarker_list hm).1) _

theorem renderIn_optional (inGeneric : Bool) {inner : TypeExpr} {marker : Option Text}
    (hm : ∀ m ∈ marker, m ∈ lex.optionalAliases) :
    renderIn lex inGeneric (.optional inner marker) =
      lex.brackets.enclose (writtenMarker lex.optionalMarker marker) (renderIn lex true inner) :=
  h.restorable.generic_marker (lex.optionalMarkers_subset (h.keptMarker_optional hm).1) _

/-- Boxing what was written outside a generic is writing inside one. -/
theorem box_render {enclosed : Bool} {type : TypeExpr} (hw : type.WellFormedIn lex enclosed) :
    lex.box (type.render lex) = type.renderArgument lex := by
  cases type with
  | primitive name => rfl
  | named name => exact h.box_of_not_primitive hw.1.not_primitive
  | optional inner marker =>
    rw [render, renderArgument, h.renderIn_optional _ hw.1, h.renderIn_optional _ hw.1]
    exact h.box_of_not_primitive (h.enclose_not_primitive _ _)
  | list inner marker =>
    rw [render, renderArgument, h.renderIn_list _ hw.1, h.renderIn_list _ hw.1]
    exact h.box_of_not_primitive (h.enclose_not_primitive _ _)
  | bounded inner => exact h.box_of_not_primitive (h.bound_not_primitive _)

/-- What is written below a list or an optional is balanced. -/
theorem balanced_renderIn (inGeneric : Bool) {type : TypeExpr}
    (hw : type.WellFormedIn lex true) :
    lex.brackets.balanced (renderIn lex inGeneric type) = true := by
  induction type generalizing inGeneric with
  | primitive name =>
    cases inGeneric with
    | false => exact hw.2 rfl
    | true =>
      show lex.brackets.balanced (lex.box name) = true
      rcases h.box_cases name with he | ⟨-, hfree⟩
      · rw [he]
        exact hw.2 rfl
      · exact Brackets.balanced_of_unbracketed hfree
  | named name => exact hw.2 rfl
  | optional inner marker ih =>
    rw [h.renderIn_optional inGeneric hw.1]
    exact Brackets.balanced_enclose h.paired (h.unbracketed_writtenMarker_optional hw.1)
      (ih true hw.2)
  | list inner marker ih =>
    rw [h.renderIn_list inGeneric hw.1]
    exact Brackets.balanced_enclose h.paired (h.unbracketed_writtenMarker_list hw.1)
      (ih true hw.2)
  | bounded inner ih =>
    show lex.brackets.balanced (lex.boundMarker ++ renderIn lex true inner) = true
    rw [Brackets.balanced_unbracketed_append h.unbracketed_bound]
    exact ih true hw

/-! ### Reading what was written -/

theorem parse_bound (rest : Text) :
    parse lex (lex.boundMarker ++ rest) = .bounded (parse lex rest) :=
  parse_of_unbound? (unbound?_append h.bound_ne_nil rest)

theorem parse_list {marker argument : Text} (hm : marker ∈ lex.listMarkers)
    (hb : lex.brackets.balanced argument = true) :
    parse lex (lex.brackets.enclose marker argument) =
      .list (parse lex argument) (keptMarker lex.listMarker marker) :=
  parse_of_list (unbound?_eq_none (h.not_bound_enclose (lex.listMarkers_subset hm) argument))
    (h.unwrap?_enclose lex.listMarkers_subset hm hb)

/-- Whatever stands in the brackets, a name with an optional's marker is no list. -/
theorem parse_optionalMarker {marker : Text} (hm : marker ∈ lex.optionalMarkers) (argument : Text) :
    parse lex (lex.brackets.enclose marker argument) =
      match lex.unwrap? lex.optionalMarkers (lex.brackets.enclose marker argument) with
      | some (marker, argument) =>
        .optional (parse lex argument) (keptMarker lex.optionalMarker marker)
      | none =>
        if lex.brackets.enclose marker argument ∈ lex.primitives then
          .primitive (lex.brackets.enclose marker argument)
        else .named (lex.brackets.enclose marker argument) := by
  have hmem := lex.optionalMarkers_subset hm
  have hn : marker ∉ lex.listMarkers := fun hl => h.disjoint marker hl hm
  exact parse_of_not_list (unbound?_eq_none (h.not_bound_enclose hmem argument))
    (h.unwrap?_enclose_of_not_mem lex.listMarkers_subset hmem hn argument)

theorem parse_optional {marker argument : Text} (hm : marker ∈ lex.optionalMarkers)
    (hb : lex.brackets.balanced argument = true) :
    parse lex (lex.brackets.enclose marker argument) =
      .optional (parse lex argument) (keptMarker lex.optionalMarker marker) := by
  rw [h.parse_optionalMarker hm, h.unwrap?_enclose lex.optionalMarkers_subset hm hb]

/-- Reading finds again all that was written around the innermost name. -/
theorem parse_renderIn (inGeneric : Bool) {enclosed : Bool} {type : TypeExpr}
    (hw : type.WellFormedIn lex enclosed) :
    parse lex (renderIn lex inGeneric type) =
      type.withLeaf (parse lex (renderIn lex (inGeneric || 0 < type.depth) type.leaf)) := by
  induction type generalizing inGeneric enclosed with
  | primitive name => simp [withLeaf, leaf, depth]
  | named name => simp [withLeaf, leaf, depth]
  | optional inner marker ih =>
    obtain ⟨hmem, hkept⟩ := h.keptMarker_optional hw.1
    rw [h.renderIn_optional inGeneric hw.1,
      h.parse_optional hmem (h.balanced_renderIn true hw.2), hkept, ih true hw.2]
    simp [withLeaf, leaf, depth]
  | list inner marker ih =>
    obtain ⟨hmem, hkept⟩ := h.keptMarker_list hw.1
    rw [h.renderIn_list inGeneric hw.1,
      h.parse_list hmem (h.balanced_renderIn true hw.2), hkept, ih true hw.2]
    simp [withLeaf, leaf, depth]
  | bounded inner ih =>
    have := ih true hw
    rw [renderIn, h.parse_bound, this]
    simp [withLeaf, leaf, depth]

/-- Writing in no generic, up to the box of a primitive that something stands around. -/
theorem parse_render_of_boxed {type : TypeExpr} (hw : type.WellFormed lex) {p : Text}
    (hp : type.innerPrimitive? = some p) (hbox : lex.box p ≠ p) :
    parse lex (type.render lex) = type.withLeaf (.named (lex.box p)) := by
  obtain ⟨hleaf, hd⟩ := innerPrimitive?_eq_some_iff.mp hp
  have hplain : lex.Plain (lex.box p) := by
    rcases h.box_cases p with he | ⟨hplain, -⟩
    · exact absurd he hbox
    · exact hplain
  have hwritten : renderIn lex (false || decide (0 < type.depth)) type.leaf = lex.box p := by
    rw [hleaf, decide_eq_true hd]
    rfl
  rw [render, h.parse_renderIn false hw, hwritten, h.parse_plain hplain]

theorem parse_render_of_unboxed {type : TypeExpr} (hw : type.WellFormed lex)
    (hbox : ∀ p, type.innerPrimitive? = some p → lex.box p = p) :
    parse lex (type.render lex) = type := by
  have hleafWF := hw.leaf_wellFormed
  have hread : parse lex (renderIn lex (false || decide (0 < type.depth)) type.leaf) =
      type.leaf := by
    rcases type.leaf_cases with ⟨p, hleaf⟩ | ⟨name, hleaf⟩
    · have hwritten : renderIn lex (false || decide (0 < type.depth)) type.leaf = p := by
        rw [hleaf]
        by_cases hd : 0 < type.depth
        · rw [decide_eq_true hd]
          exact hbox p (innerPrimitive?_eq_some_iff.mpr ⟨hleaf, hd⟩)
        · rw [decide_eq_false hd]
          rfl
      rw [hleaf] at hleafWF
      rw [hwritten, h.parse_primitive hleafWF.1, hleaf]
    · rw [hleaf] at hleafWF ⊢
      exact h.parse_plain hleafWF.1
  rw [render, h.parse_renderIn false hw, hread, withLeaf_leaf]

/-- What was written once is written so again. -/
theorem render_parse_render {type : TypeExpr} (hw : type.WellFormed lex) :
    (parse lex (type.render lex)).render lex = type.render lex := by
  by_cases hboxed : ∃ p, type.innerPrimitive? = some p ∧ lex.box p ≠ p
  · obtain ⟨p, hp, hbox⟩ := hboxed
    apply h.restorable.render_parse_of_no_innerPrimitive
    -- the leaf that is read is a plain name now
    rw [h.parse_render_of_boxed hw hp hbox, innerPrimitive?, leaf_withLeaf]
    rfl
  · rw [h.parse_render_of_unboxed hw]
    intro p hp
    by_contra hbox
    exact hboxed ⟨p, hp, hbox⟩

/-! ### Reading gives well-formed expressions -/

theorem wellFormedIn_parse (enclosed : Bool) (name : Text)
    (hb : enclosed = true → lex.brackets.balanced name = true) :
    (parse lex name).WellFormedIn lex enclosed := by
  fun_induction parse lex name generalizing enclosed with
  | case1 name rest hbound ih =>
    apply ih
    intro he
    have := hb he
    rwa [eq_append_of_unbound? hbound,
      Brackets.balanced_unbracketed_append h.unbracketed_bound] at this
  | case2 name hbound marker argument hl ih =>
    obtain ⟨hm, ha⟩ := argument?_of_unwrap? hl
    exact ⟨mem_of_mem_keptMarker hm, ih true fun _ => Brackets.balanced_of_argument? ha⟩
  | case3 name hbound hl marker argument ho ih =>
    obtain ⟨hm, ha⟩ := argument?_of_unwrap? ho
    exact ⟨mem_of_mem_keptMarker hm, ih true fun _ => Brackets.balanced_of_argument? ha⟩
  | case4 name hbound hl ho hp => exact ⟨hp, hb⟩
  | case5 name hbound hl ho hp => exact ⟨h.plain_of_not_unwrapped hbound hl ho hp, hb⟩

theorem wellFormed_parse (name : Text) : (parse lex name).WellFormed lex :=
  h.wellFormedIn_parse false name (fun e => by cases e)

/-- A boxed name has nothing left to box where nothing stands around it. -/
theorem box_render_parse_box (name : Text) :
    lex.box ((parse lex (lex.box name)).render lex) = (parse lex (lex.box name)).render lex := by
  cases hread : parse lex (lex.box name) with
  | primitive p =>
    have hp : lex.box name = p := by
      have := h.restorable.eq_surrounded (lex.box name)
      rw [hread] at this
      simpa [before, leaf, after, renderIn] using this
    show lex.box p = p
    rw [← hp]
    exact h.box_box name
  | named _ | optional _ _ | list _ _ | bounded _ =>
    have hw := h.wellFormed_parse (lex.box name)
    rw [hread] at hw
    exact h.box_render hw

/-- Only a balanced name reads as what can stand in brackets. -/
theorem balanced_of_wellFormedIn_parse {name : Text}
    (hw : (parse lex name).WellFormedIn lex true) : lex.brackets.balanced name = true := by
  fun_induction parse lex name with
  | case1 name rest hbound ih =>
    rw [eq_append_of_unbound? hbound, Brackets.balanced_unbracketed_append h.unbracketed_bound]
    exact ih hw
  | case2 name hbound marker argument hl ih =>
    obtain ⟨hm, ha⟩ := argument?_of_unwrap? hl
    rw [eq_enclose_of_unwrap? h.restorable lex.listMarkers_subset hl]
    exact Brackets.balanced_enclose h.paired
      (h.unbracketed_marker (lex.listMarkers_subset hm)) (Brackets.balanced_of_argument? ha)
  | case3 name hbound hl marker argument ho ih =>
    obtain ⟨hm, ha⟩ := argument?_of_unwrap? ho
    rw [eq_enclose_of_unwrap? h.restorable lex.optionalMarkers_subset ho]
    exact Brackets.balanced_enclose h.paired
      (h.unbracketed_marker (lex.optionalMarkers_subset hm)) (Brackets.balanced_of_argument? ha)
  | case4 name hbound hl ho hp => exact hw.2 rfl
  | case5 name hbound hl ho hp => exact hw.2 rfl

end Lexicon.Legible

/-! ## Reading undoes writing -/

/-- For both target languages: every text reads as a well-formed expression, and a well-formed
expression is read again after writing, with a boxed primitive as the plain name of its box. Where
nothing is boxed, reading and writing are inverse bijections between texts and well-formed
expressions. -/
theorem TypeExpr.parse_render (lang : Language) :
    (∀ name : Text, (lang.parse name).WellFormed lang.lexicon) ∧
    (∀ type : TypeExpr, type.WellFormed lang.lexicon →
      (∀ p, type.leaf = .primitive p → 0 < type.depth → lang.lexicon.box p ≠ p →
        lang.parse (lang.render type) = type.withLeaf (.named (lang.lexicon.box p))) ∧
      ((¬ ∃ p, type.leaf = .primitive p ∧ 0 < type.depth ∧ lang.lexicon.box p ≠ p) →
        lang.parse (lang.render type) = type)) ∧
    Set.BijOn Language.scala.parse Set.univ {type | type.WellFormed Language.scala.lexicon} ∧
    Set.BijOn Language.scala.render {type | type.WellFormed Language.scala.lexicon} Set.univ ∧
    Set.InvOn Language.scala.render Language.scala.parse Set.univ
      {type | type.WellFormed Language.scala.lexicon} := by
  have hinv : Set.InvOn Language.scala.render Language.scala.parse Set.univ
      {type | type.WellFormed Language.scala.lexicon} := by
    constructor
    · intro name _
      exact Language.render_parse_scala name
    · intro type hw
      exact Language.scala.legible.parse_render_of_unboxed hw fun p _ => rfl
  have hparse : Set.MapsTo Language.scala.parse Set.univ
      {type | type.WellFormed Language.scala.lexicon} :=
    fun name _ => Language.scala.legible.wellFormed_parse name
  have hrender : Set.MapsTo Language.scala.render
      {type | type.WellFormed Language.scala.lexicon} Set.univ := fun _ _ => Set.mem_univ _
  refine ⟨lang.legible.wellFormed_parse, fun type hw => ⟨fun p hleaf hd hbox => ?_,
    fun hnone => ?_⟩, hinv.bijOn hparse hrender, hinv.symm.bijOn hrender hparse, hinv⟩
  · exact lang.legible.parse_render_of_boxed hw (innerPrimitive?_eq_some_iff.mpr ⟨hleaf, hd⟩) hbox
  · apply lang.legible.parse_render_of_unboxed hw
    intro p hp
    obtain ⟨hleaf, hd⟩ := innerPrimitive?_eq_some_iff.mp hp
    by_contra hbox
    exact hnone ⟨p, hleaf, hd, hbox⟩

/-- A list of a primitive is read again as a list of the box. -/
theorem parse_render_primitive_list :
    (TypeExpr.list (.primitive "int") none).WellFormed Language.java.lexicon ∧
      Language.java.parse (Language.java.render (.list (.primitive "int") none)) =
        .list (.named "Integer") none := by
  have hw : (TypeExpr.list (.primitive "int") none).WellFormed Language.java.lexicon := by
    refine ⟨?_, by decide, fun _ => by decide⟩
    intro m hm
    cases hm
  refine ⟨hw, ?_⟩
  exact ((TypeExpr.parse_render .java).2.1 _ hw).1 "int" rfl (by decide) (by decide +kernel)

end TargetTypes
