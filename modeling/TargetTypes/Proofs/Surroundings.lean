import TargetTypes.Language.Wrapping
import TargetTypes.Proofs.Marker

/-!
# What stands around a name

A type expression is one innermost name with lists, optionals and bounds around it. Reading
cuts a text into what they contribute before that name, the name, and what they contribute
behind it; writing puts the same pieces together again, but for the box of a primitive.

    name = before ++ leaf ++ after                                      (eq_surrounded)
    writing gives before ++ leaf, perhaps boxed ++ after                (renderIn_parse)
    writing undoes reading, up to boxes                                 (render_parse)
-/

namespace TargetTypes

namespace TypeExpr

/-- The innermost name. -/
def leaf : TypeExpr → TypeExpr
  | .primitive name => .primitive name
  | .named name => .named name
  | .optional inner _ => inner.leaf
  | .list inner _ => inner.leaf
  | .bounded inner => inner.leaf

/-- What lists, optionals and bounds contribute before the innermost name. -/
def before (lex : Lexicon) : TypeExpr → Text
  | .primitive _ => []
  | .named _ => []
  | .optional inner marker =>
    writtenMarker lex.optionalMarker marker ++ lex.brackets.opening ++ inner.before lex
  | .list inner marker =>
    writtenMarker lex.listMarker marker ++ lex.brackets.opening ++ inner.before lex
  | .bounded inner => lex.boundMarker ++ inner.before lex

/-- What they contribute behind it. -/
def after (lex : Lexicon) : TypeExpr → Text
  | .primitive _ => []
  | .named _ => []
  | .optional inner _ => inner.after lex ++ lex.brackets.closing
  | .list inner _ => inner.after lex ++ lex.brackets.closing
  | .bounded inner => inner.after lex

/-- The innermost name, where it is a primitive and something stands around it. -/
def innerPrimitive? (type : TypeExpr) : Option Text :=
  match type.leaf with
  | .primitive name => if 0 < type.depth then some name else none
  | _ => none

/-! ## Lemmas -/

theorem innerPrimitive?_eq_some_iff {type : TypeExpr} {name : Text} :
    type.innerPrimitive? = some name ↔ type.leaf = .primitive name ∧ 0 < type.depth := by
  unfold innerPrimitive?
  constructor
  · intro h
    split at h
    · next p hp =>
      split at h
      · next hd =>
        rw [Option.some.injEq] at h
        exact ⟨h ▸ hp, hd⟩
      · cases h
    · cases h
  · rintro ⟨hleaf, hd⟩
    rw [hleaf]
    exact if_pos hd

/-- The innermost name is a primitive's or a plain one. -/
theorem leaf_cases (type : TypeExpr) :
    (∃ name, type.leaf = .primitive name) ∨ ∃ name, type.leaf = .named name := by
  induction type with
  | primitive name => exact Or.inl ⟨name, rfl⟩
  | named name => exact Or.inr ⟨name, rfl⟩
  | optional inner marker ih => exact ih
  | list inner marker ih => exact ih
  | bounded inner ih => exact ih

/-- Only a primitive is written differently in and outside a generic. -/
theorem renderIn_leaf_of_no_innerPrimitive (lex : Lexicon) {type : TypeExpr}
    (h : type.innerPrimitive? = none) :
    renderIn lex (0 < type.depth) type.leaf = renderIn lex false type.leaf := by
  rcases type.leaf_cases with ⟨name, hn⟩ | ⟨name, hn⟩
  · have hd : ¬ 0 < type.depth := by
      intro hd
      rw [innerPrimitive?_eq_some_iff.mpr ⟨hn, hd⟩] at h
      cases h
    rw [decide_eq_false hd]
  · rw [hn]
    rfl

end TypeExpr

namespace Lexicon.Restorable

open TypeExpr

variable {lex : Lexicon} (hr : lex.Restorable)

include hr

theorem writtenMarker_list {marker : Text} (hm : marker ∈ lex.listMarkers) :
    writtenMarker lex.listMarker (keptMarker lex.listMarker marker) = marker :=
  writtenMarker_keptMarker (fun m ha => hr.alias_ne_nil m (List.mem_append_left _ ha)) hm

theorem writtenMarker_optional {marker : Text} (hm : marker ∈ lex.optionalMarkers) :
    writtenMarker lex.optionalMarker (keptMarker lex.optionalMarker marker) = marker :=
  writtenMarker_keptMarker (fun m ha => hr.alias_ne_nil m (List.mem_append_right _ ha)) hm

theorem generic_marker {marker : Text} (hm : marker ∈ lex.markers) (argument : Text) :
    lex.generic marker argument = lex.brackets.enclose marker argument := by
  apply lex.generic_of_not_hasSlot
  cases hs : Text.hasSlot marker with
  | false => rfl
  | true => exact absurd (Text.hasSlot_iff.mp hs) (hr.no_slot marker hm)

/-- Writing puts the pieces that reading found around the innermost name, whatever is written
for that one. -/
theorem renderIn_parse (inGeneric : Bool) (name : Text) :
    renderIn lex inGeneric (parse lex name) =
      (parse lex name).before lex ++
        renderIn lex (inGeneric || 0 < (parse lex name).depth) (parse lex name).leaf ++
        (parse lex name).after lex := by
  fun_induction parse lex name generalizing inGeneric with
  | case1 name rest hb ih =>
    simp only [renderIn, before, leaf, after, depth]
    rw [ih true]
    simp
  | case2 name hb marker argument hl ih =>
    obtain ⟨hm, -⟩ := argument?_of_unwrap? hl
    simp only [renderIn, before, leaf, after, depth]
    rw [hr.writtenMarker_list hm, hr.generic_marker (lex.listMarkers_subset hm), ih true]
    simp [Brackets.enclose]
  | case3 name hb hl marker argument ho ih =>
    obtain ⟨hm, -⟩ := argument?_of_unwrap? ho
    simp only [renderIn, before, leaf, after, depth]
    rw [hr.writtenMarker_optional hm, hr.generic_marker (lex.optionalMarkers_subset hm), ih true]
    simp [Brackets.enclose]
  | case4 name => simp [before, after, leaf, depth]
  | case5 name => simp [before, after, leaf, depth]

/-- Reading cuts a name into these pieces. -/
theorem eq_surrounded (name : Text) :
    name = (parse lex name).before lex ++ renderIn lex false (parse lex name).leaf ++
      (parse lex name).after lex := by
  fun_induction parse lex name with
  | case1 name rest hb ih =>
    simp only [before, leaf, after]
    rw [eq_append_of_unbound? hb]
    conv => lhs; rw [ih]
    simp
  | case2 name hb marker argument hl ih =>
    obtain ⟨hm, -⟩ := argument?_of_unwrap? hl
    simp only [before, leaf, after]
    rw [eq_enclose_of_unwrap? hr lex.listMarkers_subset hl, hr.writtenMarker_list hm]
    conv => lhs; rw [ih]
    simp [Brackets.enclose]
  | case3 name hb hl marker argument ho ih =>
    obtain ⟨hm, -⟩ := argument?_of_unwrap? ho
    simp only [before, leaf, after]
    rw [eq_enclose_of_unwrap? hr lex.optionalMarkers_subset ho, hr.writtenMarker_optional hm]
    conv => lhs; rw [ih]
    simp [Brackets.enclose]
  | case4 name => simp [before, after, leaf, renderIn]
  | case5 name => simp [before, after, leaf, renderIn]

theorem render_parse_of_innerPrimitive {name p : Text}
    (h : (parse lex name).innerPrimitive? = some p) :
    name = (parse lex name).before lex ++ p ++ (parse lex name).after lex ∧
      (parse lex name).render lex =
        (parse lex name).before lex ++ lex.box p ++ (parse lex name).after lex := by
  obtain ⟨hleaf, hd⟩ := innerPrimitive?_eq_some_iff.mp h
  constructor
  · have := hr.eq_surrounded name
    rwa [hleaf] at this
  · rw [render, hr.renderIn_parse, hleaf, decide_eq_true hd]
    rfl

theorem render_parse_of_no_innerPrimitive {name : Text}
    (h : (parse lex name).innerPrimitive? = none) : (parse lex name).render lex = name := by
  rw [render, hr.renderIn_parse, Bool.false_or, renderIn_leaf_of_no_innerPrimitive lex h]
  exact (hr.eq_surrounded name).symm

theorem render_parse_of_unboxed (hbox : ∀ p, lex.box p = p) (name : Text) :
    (parse lex name).render lex = name := by
  cases hp : (parse lex name).innerPrimitive? with
  | none => exact hr.render_parse_of_no_innerPrimitive hp
  | some p =>
    obtain ⟨hname, hrender⟩ := hr.render_parse_of_innerPrimitive hp
    rw [hrender, hbox]
    exact hname.symm

end Lexicon.Restorable

theorem Language.render_parse_scala (name : Text) :
    Language.scala.render (Language.scala.parse name) = name :=
  Language.scala.legible.restorable.render_parse_of_unboxed (fun _ => rfl) name

/-! ## Writing undoes reading -/

/-- In every lexicon whose markers can be put back, and for every text: a primitive below a
list, an optional or a bound comes back as its box between the same surroundings, all else comes
back as it was. Both target languages are such, and the one that boxes nothing gives back every
text. -/
theorem TypeExpr.render_parse :
    (∀ lex : Lexicon, lex.Restorable → ∀ name : Text,
      (∀ p, (parse lex name).leaf = .primitive p → 0 < (parse lex name).depth →
        name = (parse lex name).before lex ++ p ++ (parse lex name).after lex ∧
        (parse lex name).render lex =
          (parse lex name).before lex ++ lex.box p ++ (parse lex name).after lex) ∧
      ((¬ ∃ p, (parse lex name).leaf = .primitive p ∧ 0 < (parse lex name).depth) →
        (parse lex name).render lex = name)) ∧
    (∀ lang : Language, lang.lexicon.Restorable) ∧
    ∀ name : Text, Language.scala.render (Language.scala.parse name) = name := by
  refine ⟨fun lex hr name => ⟨fun p hleaf hd => ?_, fun hnone => ?_⟩, fun lang => ?_,
    Language.render_parse_scala⟩
  · exact hr.render_parse_of_innerPrimitive (innerPrimitive?_eq_some_iff.mpr ⟨hleaf, hd⟩)
  · apply hr.render_parse_of_no_innerPrimitive
    cases hp : (parse lex name).innerPrimitive? with
    | none => rfl
    | some p => exact absurd ⟨p, innerPrimitive?_eq_some_iff.mp hp⟩ hnone
  · exact lang.legible.restorable

/-- The primitive of a list comes back as its box. -/
theorem render_parse_primitive_list :
    Language.java.lexicon.Restorable ∧
      Language.java.render (Language.java.parse "java.util.List<int>") =
        ("java.util.List<Integer>" : Text) := by
  obtain ⟨hlex, hlang, -⟩ := TypeExpr.render_parse
  refine ⟨hlang .java, ?_⟩
  obtain ⟨-, hrender⟩ := (hlex _ (hlang .java) "java.util.List<int>").1 "int"
    (by decide +kernel) (by decide +kernel)
  exact hrender.trans (by decide +kernel)

end TargetTypes
