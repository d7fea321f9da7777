import Mathlib.Data.List.Induction
import Mathlib.Logic.Function.Iterate
import TargetTypes.Proofs.Wrapping

/-!
# Chains of wrapping steps

A name is wrapped over and over, each step taking the text that the one before has written. The
first step boxes the name, the later ones find nothing to box. Reading the last text gives back
the steps one by one, but an unbalanced name is lost in them: `][` in a list of lists leaves the
plain name `Seq[][]` in one list.

    one step reads as that step around what the box reads as                   (parse_wrap)
    a chain is written, after reading, as the chain of what is below (render_parse_wrapAll)
    a chain reads as its steps exactly for a balanced name     (parse_wrapAll_iff_balanced)
-/

namespace TargetTypes

/-- A step that wraps a name. -/
inductive Wrapper where
  | list
  | optional
  | subtypes
deriving DecidableEq, Repr

namespace Wrapper

/-! ## Algorithm -/

def wrap (lang : Language) : Wrapper → Text → Text
  | .list, name => lang.listOf name
  | .optional, name => lang.optionalOf name
  | .subtypes, name => lang.listOfSubtypes name

/-- What the step says of an expression. -/
def around : Wrapper → TypeExpr → TypeExpr
  | .list, type => .list type none
  | .optional, type => .optional type none
  | .subtypes, type => .list (.bounded type) none

/-- The steps in turn, the first one innermost. -/
def wrapAll (lang : Language) (steps : List Wrapper) (name : Text) : Text :=
  steps.foldl (fun name step => step.wrap lang name) name

def aroundAll (steps : List Wrapper) (type : TypeExpr) : TypeExpr :=
  steps.foldl (fun type step => step.around type) type

/-! ## Lemmas -/

section

variable (lang : Language)

/-- A list of subtypes is the list of the bounded name. -/
theorem wrap_subtypes (name : Text) :
    wrap lang .subtypes name =
      lang.listOf (lang.lexicon.boundMarker ++ lang.lexicon.box name) := rfl

theorem balanced_bound {name : Text} (hb : lang.lexicon.brackets.balanced name = true) :
    lang.lexicon.brackets.balanced (lang.lexicon.boundMarker ++ lang.lexicon.box name) = true := by
  rw [Brackets.balanced_unbracketed_append lang.legible.unbracketed_bound]
  exact lang.balanced_box hb

theorem box_bound (rest : Text) :
    lang.lexicon.box (lang.lexicon.boundMarker ++ rest) = lang.lexicon.boundMarker ++ rest :=
  lang.legible.box_of_not_primitive (lang.legible.bound_not_primitive rest)

/-- Boxes are put in by the first step only. -/
theorem box_wrap (step : Wrapper) (name : Text) :
    lang.lexicon.box (step.wrap lang name) = step.wrap lang name := by
  cases step with
  | list => exact lang.box_listOf name
  | optional => exact lang.box_optionalOf name
  | subtypes => exact lang.box_listOf _

theorem balanced_wrap (step : Wrapper) {name : Text}
    (hb : lang.lexicon.brackets.balanced name = true) :
    lang.lexicon.brackets.balanced (step.wrap lang name) = true := by
  cases step with
  | list => exact lang.balanced_listOf hb
  | optional => exact lang.balanced_optionalOf hb
  | subtypes => exact lang.balanced_listOf (balanced_bound lang hb)

theorem parse_wrap (step : Wrapper) {name : Text}
    (hb : lang.lexicon.brackets.balanced name = true) :
    lang.parse (step.wrap lang name) = step.around (lang.parse (lang.lexicon.box name)) := by
  cases step with
  | list => exact lang.parse_listOf hb
  | optional => exact lang.parse_optionalOf hb
  | subtypes =>
    rw [wrap_subtypes, lang.parse_listOf (balanced_bound lang hb), box_bound]
    exact congrArg (TypeExpr.list · none) (lang.legible.parse_bound _)

/-- Writing a step around an expression is wrapping what is written of it. -/
theorem render_around (step : Wrapper) {type : TypeExpr} (hw : type.WellFormed lang.lexicon) :
    lang.render (step.around type) = step.wrap lang (lang.render type) := by
  have hbox : lang.lexicon.box (lang.render type) = type.renderArgument lang.lexicon :=
    lang.legible.box_render hw
  cases step with
  | list =>
    show _ = lang.listOf (lang.render type)
    rw [lang.listOf_eq_enclose, hbox]
    exact lang.legible.renderIn_list false (by simp)
  | optional =>
    show _ = lang.optionalOf (lang.render type)
    rw [lang.optionalOf_eq_enclose, hbox]
    exact lang.legible.renderIn_optional false (by simp)
  | subtypes =>
    rw [wrap_subtypes, lang.listOf_eq_enclose, box_bound, hbox]
    exact lang.legible.renderIn_list false (by simp)

end

/-! ## Chains -/

section

variable {lang : Language}

theorem wrapAll_append_singleton (init : List Wrapper) (last : Wrapper) (name : Text) :
    wrapAll lang (init ++ [last]) name = last.wrap lang (wrapAll lang init name) := by
  rw [wrapAll, List.foldl_append]
  rfl

theorem balanced_wrapAll (steps : List Wrapper) {name : Text}
    (hb : lang.lexicon.brackets.balanced name = true) :
    lang.lexicon.brackets.balanced (wrapAll lang steps name) = true := by
  induction steps generalizing name with
  | nil => exact hb
  | cons step rest ih => exact ih (step.balanced_wrap lang hb)

theorem parse_wrapAll (steps : List Wrapper) {name : Text}
    (hb : lang.lexicon.brackets.balanced name = true) (hbox : lang.lexicon.box name = name) :
    lang.parse (wrapAll lang steps name) = aroundAll steps (lang.parse name) := by
  induction steps generalizing name with
  | nil => rfl
  | cons step rest ih =>
    have hstep : lang.parse (step.wrap lang name) = step.around (lang.parse name) := by
      rw [step.parse_wrap lang hb, hbox]
    show lang.parse (wrapAll lang rest (step.wrap lang name)) = _
    rw [ih (step.balanced_wrap lang hb) (step.box_wrap lang name), hstep]
    rfl

theorem wellFormedIn_of_around {step : Wrapper} {type : TypeExpr} {enclosed : Bool}
    (hw : (step.around type).WellFormedIn lang.lexicon enclosed) :
    type.WellFormedIn lang.lexicon true := by
  cases step with
  | list => exact hw.2
  | optional => exact hw.2
  | subtypes => exact hw.2

theorem wellFormedIn_of_aroundAll {steps : List Wrapper} {type : TypeExpr} {enclosed : Bool}
    (hw : (aroundAll steps type).WellFormedIn lang.lexicon enclosed) :
    ∃ inside, type.WellFormedIn lang.lexicon inside := by
  induction steps generalizing type with
  | nil => exact ⟨enclosed, hw⟩
  | cons step rest ih =>
    obtain ⟨inside, hstep⟩ := ih hw
    exact ⟨true, wellFormedIn_of_around hstep⟩

/-- What stands in the brackets of a text that reads as a chain is balanced. -/
theorem balanced_of_parse_eq_aroundAll {first : Wrapper} {rest : List Wrapper} {name base : Text}
    (h : lang.parse name = aroundAll (first :: rest) (lang.parse (lang.lexicon.box base))) :
    lang.lexicon.brackets.balanced base = true := by
  have hw : (aroundAll rest (first.around (lang.parse (lang.lexicon.box base)))).WellFormed
      lang.lexicon := by
    have := lang.legible.wellFormed_parse name
    rwa [← Language.parse, h] at this
  obtain ⟨inside, hfirst⟩ := wellFormedIn_of_aroundAll hw
  exact lang.balanced_of_balanced_box
    (lang.legible.balanced_of_wellFormedIn_parse (wellFormedIn_of_around hfirst))

/-! ## Taking the steps off again -/

theorem render_parse_wrapAll (steps : List Wrapper) {name : Text}
    (hb : lang.lexicon.brackets.balanced name = true) :
    lang.render (lang.parse (lang.lexicon.box (wrapAll lang steps name))) =
      wrapAll lang steps (lang.render (lang.parse (lang.lexicon.box name))) := by
  induction steps generalizing name with
  | nil => rfl
  | cons step rest ih =>
    have hstep : lang.render (lang.parse (lang.lexicon.box (step.wrap lang name))) =
        step.wrap lang (lang.render (lang.parse (lang.lexicon.box name))) := by
      rw [step.box_wrap lang name, step.parse_wrap lang hb]
      exact step.render_around lang (lang.legible.wellFormed_parse _)
    show lang.render (lang.parse (lang.lexicon.box (wrapAll lang rest (step.wrap lang name)))) = _
    rw [ih (step.balanced_wrap lang hb), hstep]
    rfl

theorem element_wrap {step : Wrapper} (hstep : step ≠ .subtypes) {name : Text}
    (hb : lang.lexicon.brackets.balanced name = true) :
    lang.element (step.wrap lang name) = lang.render (lang.parse (lang.lexicon.box name)) := by
  rw [Language.element, step.parse_wrap lang hb]
  cases step with
  | list => rfl
  | optional => rfl
  | subtypes => exact absurd rfl hstep

/-- The last step is taken off first, and then the name below is written again. -/
theorem element_wrapAll {init : List Wrapper} {last : Wrapper} (hlast : last ≠ .subtypes)
    {name : Text} (hb : lang.lexicon.brackets.balanced name = true) :
    lang.element (wrapAll lang (init ++ [last]) name) =
      wrapAll lang init (lang.render (lang.parse (lang.lexicon.box name))) := by
  rw [wrapAll_append_singleton, element_wrap hlast (balanced_wrapAll init hb),
    render_parse_wrapAll init hb]

theorem element_iterate_wrapAll {steps : List Wrapper} (hsteps : ∀ step ∈ steps, step ≠ .subtypes)
    {name : Text} (hb : lang.lexicon.brackets.balanced name = true)
    (hname : lang.render (lang.parse (lang.lexicon.box name)) = name) :
    lang.element^[steps.length] (wrapAll lang steps name) = name := by
  induction steps using List.reverseRecOn with
  | nil => rfl
  | append_singleton init last ih =>
    have hlast : last ≠ .subtypes := hsteps last (by simp)
    have hinit : ∀ step ∈ init, step ≠ .subtypes := fun step hm =>
      hsteps step (List.mem_append_left _ hm)
    rw [List.length_append, List.length_singleton, Function.iterate_succ_apply,
      element_wrapAll hlast hb, hname, ih hinit]

theorem balanced_render_parse_box {name : Text}
    (hb : lang.lexicon.brackets.balanced name = true) :
    lang.lexicon.brackets.balanced (lang.render (lang.parse (lang.lexicon.box name))) = true :=
  lang.legible.balanced_renderIn false
    (lang.legible.wellFormedIn_parse true _ fun _ => lang.balanced_box hb)

/-- Once boxed, read and written, a name stays as it is. -/
theorem render_parse_box_render_parse_box (name : Text) :
    lang.render (lang.parse (lang.lexicon.box
        (lang.render (lang.parse (lang.lexicon.box name))))) =
      lang.render (lang.parse (lang.lexicon.box name)) := by
  have hbox : lang.lexicon.box (lang.render (lang.parse (lang.lexicon.box name))) =
      lang.render (lang.parse (lang.lexicon.box name)) := lang.legible.box_render_parse_box name
  rw [hbox]
  exact lang.legible.render_parse_render (lang.legible.wellFormed_parse _)

end

/-! ## A chain and its reading -/

/-- Wrapped by any steps, at least one, a name reads as these steps around what its box reads as
if and only if it is balanced. Lists and optionals come off again, one for each step; what is left
is the box as it is written after reading, and for the language without boxes the name itself. -/
theorem parse_wrapAll_iff_balanced (lang : Language) (base : Text) {steps : List Wrapper}
    (hne : steps ≠ []) :
    (lang.parse (wrapAll lang steps base) =
        aroundAll steps (lang.parse (lang.lexicon.box base)) ↔
      lang.lexicon.brackets.balanced base = true) ∧
    (lang.lexicon.brackets.balanced base = true → (∀ step ∈ steps, step ≠ .subtypes) →
      lang.element^[steps.length] (wrapAll lang steps base) =
        lang.render (lang.parse (lang.lexicon.box base))) ∧
    (lang = .scala → lang.render (lang.parse (lang.lexicon.box base)) = base) := by
  refine ⟨⟨fun h => ?_, fun hb => ?_⟩, fun hb hsteps => ?_, ?_⟩
  · cases steps with
    | nil => exact absurd rfl hne
    | cons first rest => exact balanced_of_parse_eq_aroundAll h
  · cases steps with
    | nil => exact absurd rfl hne
    | cons first rest =>
      -- the first step boxes the name, and the others have nothing to box
      show lang.parse (wrapAll lang rest (first.wrap lang base)) = _
      rw [parse_wrapAll rest (first.balanced_wrap lang hb) (first.box_wrap lang base),
        first.parse_wrap lang hb]
      rfl
  · cases steps using List.reverseRecOn with
    | nil => exact absurd rfl hne
    | append_singleton init last =>
      have hlast : last ≠ .subtypes := hsteps last (by simp)
      have hinit : ∀ step ∈ init, step ≠ .subtypes := fun step hm =>
        hsteps step (List.mem_append_left _ hm)
      rw [List.length_append, List.length_singleton, Function.iterate_succ_apply,
        element_wrapAll hlast hb]
      exact element_iterate_wrapAll hinit (balanced_render_parse_box hb)
        (render_parse_box_render_parse_box base)
  · rintro rfl
    exact Language.render_parse_scala base

/-- The primitive below is boxed when the first list is taken off. -/
theorem parse_optional_list_list_of_primitive :
    [Wrapper.list, Wrapper.optional] ≠ [] ∧
      Language.java.parse (wrapAll .java [.list, .optional] "java.util.List<int>") =
        .optional (.list (.list (.primitive "int") none) none) none ∧
      Language.java.element^[2] (wrapAll .java [.list, .optional] "java.util.List<int>") =
        ("java.util.List<Integer>" : Text) := by
  have hne : [Wrapper.list, Wrapper.optional] ≠ [] := by decide
  obtain ⟨hparse, helement, -⟩ := parse_wrapAll_iff_balanced .java "java.util.List<int>" hne
  refine ⟨hne, ?_, ?_⟩
  · rw [hparse.mpr (by decide)]
    decide +kernel
  · exact (helement (by decide) (by decide)).trans (by decide +kernel)

/-- Two lists around `][` read as one, of a plain name. -/
example : Language.scala.parse (wrapAll .scala [.list, .list] "][") =
    .list (.named "Seq[][]") none := by
  decide +kernel

end Wrapper

end TargetTypes
