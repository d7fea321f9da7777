import Mathlib.Logic.Function.Iterate
import TargetTypes.Proofs.ListForm

/-!
# Taking lists and optionals off

The element of a list or an optional is read and written again, and a primitive in it is boxed on
the way, so it may be longer than what stood in the brackets: `char` comes out as `Character`. But a
primitive has one box, and the brackets with their marker were longer. So every step makes the name
shorter, and in the end it is neither list nor optional.

    in the brackets of a marker a name is longer than written again  (length_render_parse_lt)
    the element of a list or an optional is shorter than it               (length_element_lt)
    taking elements comes to an end within the length           (element_iterate_settles)
-/

namespace TargetTypes

/-- A primitive in the brackets of a marker is longer than its box. -/
def Lexicon.Outweighs (lex : Lexicon) : Prop :=
  ∀ marker ∈ lex.markers, ∀ entry ∈ lex.boxes,
    entry.2.length < (lex.brackets.enclose marker entry.1).length

theorem Language.outweighs (lang : Language) : lang.lexicon.Outweighs := by
  unfold Lexicon.Outweighs
  cases lang <;> decide

/-! ## Lengths -/

namespace Lexicon.Legible

open TypeExpr

variable {lex : Lexicon} (h : lex.Legible) (hweigh : lex.Outweighs) {marker : Text}
  (hm : marker ∈ lex.markers)

include h hweigh hm

theorem length_box_lt (name : Text) :
    (lex.box name).length < (lex.brackets.enclose marker name).length := by
  unfold box
  cases hl : lex.boxes.lookup name with
  | none => exact Brackets.length_lt_enclose h.paired marker name
  | some boxed => exact hweigh marker hm _ (mem_boxes_of_lookup hl)

/-- All that is written differently is one primitive. -/
theorem length_render_parse_lt (name : Text) :
    ((parse lex name).render lex).length < (lex.brackets.enclose marker name).length := by
  cases hp : (parse lex name).innerPrimitive? with
  | none =>
    rw [h.restorable.render_parse_of_no_innerPrimitive hp]
    exact Brackets.length_lt_enclose h.paired marker name
  | some p =>
    obtain ⟨hname, hrender⟩ := h.restorable.render_parse_of_innerPrimitive hp
    have hbox := h.length_box_lt hweigh hm p
    have hlength := congrArg List.length hname
    rw [Brackets.length_enclose] at hbox ⊢
    simp only [hrender, List.length_append] at hlength ⊢
    omega

end Lexicon.Legible

namespace Language

variable (lang : Language) {name argument : Text}

/-! ## One step -/

theorem element_of_encloses (h : lang.Encloses lang.lexicon.markers name argument) :
    lang.element name = lang.render (lang.parse argument) := by
  obtain ⟨marker, hm, hb, hname⟩ := h
  rcases List.mem_append.mp hm with hlist | hoptional
  · obtain ⟨kept, hread⟩ := lang.parse_of_isListOf ⟨marker, hlist, hb, hname⟩
    rw [element, hread]
    rfl
  · obtain ⟨kept, hread⟩ := lang.parse_of_isOptionalOf ⟨marker, hoptional, hb, hname⟩
    rw [element, hread]
    rfl

theorem encloses_of_isList_or_isOptional
    (h : (lang.parse name).isList = true ∨ (lang.parse name).isOptional = true) :
    ∃ argument, lang.Encloses lang.lexicon.markers name argument := by
  rcases h with hlist | hoptional
  · obtain ⟨argument, marker, hm, hform⟩ := (lang.isList_parse_iff name).mp hlist
    exact ⟨argument, marker, lang.lexicon.listMarkers_subset hm, hform⟩
  · obtain ⟨argument, marker, hm, hform⟩ := (lang.isOptional_iff name).mp hoptional
    exact ⟨argument, marker, lang.lexicon.optionalMarkers_subset hm, hform⟩

theorem length_element_lt
    (h : (lang.parse name).isList = true ∨ (lang.parse name).isOptional = true) :
    (lang.element name).length < name.length := by
  obtain ⟨argument, hform⟩ := lang.encloses_of_isList_or_isOptional h
  rw [lang.element_of_encloses hform]
  obtain ⟨marker, hm, -, rfl⟩ := hform
  exact lang.legible.length_render_parse_lt lang.outweighs hm argument

theorem element_of_neither (hlist : (lang.parse name).isList = false)
    (hoptional : (lang.parse name).isOptional = false) : lang.element name = name := by
  unfold element
  cases hread : lang.parse name with
  | list inner marker =>
    rw [hread] at hlist
    cases hlist
  | optional inner marker =>
    rw [hread] at hoptional
    cases hoptional
  | primitive _ | named _ | bounded _ => rfl

/-! ## All steps -/

/-- The length bounds the steps, since each one makes the name shorter. -/
theorem exists_iterate_element (name : Text) :
    ∃ n ≤ name.length, (lang.parse (lang.element^[n] name)).isList = false ∧
      (lang.parse (lang.element^[n] name)).isOptional = false := by
  induction hlength : name.length using Nat.strong_induction_on generalizing name with
  | _ length ih =>
    subst hlength
    by_cases hmore : (lang.parse name).isList = true ∨ (lang.parse name).isOptional = true
    · have hlt := lang.length_element_lt hmore
      obtain ⟨n, hn, hend⟩ := ih _ hlt (lang.element name) rfl
      refine ⟨n + 1, by omega, ?_⟩
      rwa [Function.iterate_succ_apply]
    · rw [not_or, Bool.not_eq_true, Bool.not_eq_true] at hmore
      exact ⟨0, Nat.zero_le _, hmore⟩

/-- The element of a list or an optional is shorter than it, and any other name is its own. So
taking the element over and over comes, in no more steps than the name has characters, to a name
that stays as it is and has the form neither of a list nor of an optional. -/
theorem element_iterate_settles (lang : Language) (name : Text) :
    ((lang.parse name).isList = true ∨ (lang.parse name).isOptional = true →
      (lang.element name).length < name.length) ∧
    ((lang.parse name).isList = false → (lang.parse name).isOptional = false →
      lang.element name = name) ∧
    ∃ n ≤ name.length, lang.element (lang.element^[n] name) = lang.element^[n] name ∧
      (¬ ∃ element, lang.IsListOf (lang.element^[n] name) element) ∧
      ¬ ∃ element, lang.IsOptionalOf (lang.element^[n] name) element := by
  refine ⟨lang.length_element_lt, lang.element_of_neither, ?_⟩
  obtain ⟨n, hn, hlist, hoptional⟩ := lang.exists_iterate_element name
  refine ⟨n, hn, lang.element_of_neither hlist hoptional, ?_, ?_⟩
  · rw [← isList_parse_iff, hlist]
    exact Bool.false_ne_true
  · rw [← isOptional_iff, isOptional, hoptional]
    exact Bool.false_ne_true

/-- The inner list gets longer by the box of its primitive, and still is shorter than the outer. -/
theorem length_element_list_of_chars :
    (Language.java.parse "java.util.List<java.util.List<char>>").isList = true ∧
      (Language.java.element "java.util.List<java.util.List<char>>").length <
        ("java.util.List<java.util.List<char>>" : Text).length ∧
      Language.java.element "java.util.List<java.util.List<char>>" =
        ("java.util.List<Character>" : Text) := by
  have hlist : (Language.java.parse "java.util.List<java.util.List<char>>").isList = true := by
    decide +kernel
  exact ⟨hlist, (element_iterate_settles .java _).1 (Or.inl hlist), by decide +kernel⟩

end Language

end TargetTypes
