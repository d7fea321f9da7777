import TargetTypes.Lexicon
import TargetTypes.TypeExpr

/-!
# Reading a type name

A name that starts with the bound marker is a bound; a bracketed name with a list marker is a
list, with an optional marker an optional; what is left is a primitive or a plain name. Every
text has a reading. Each step reads a shorter text, so reading ends.

    an element is shorter than the name it is taken from                  (length_of_unwrap?)
    at most one list, optional or bound stands around it per character    (depth_parse)
-/

namespace TargetTypes

/-! ## Algorithm -/

namespace Lexicon

/-- The first marker the name is written with, and the argument. A form that takes nothing off
the name is none. -/
def unwrap? (lex : Lexicon) (markers : List Text) (name : Text) : Option (Text × Text) :=
  markers.findSome? fun marker =>
    match lex.brackets.argument? marker name with
    | some argument => if argument.length < name.length then some (marker, argument) else none
    | none => none

theorem length_of_unwrap? {lex : Lexicon} {markers : List Text} {name marker argument : Text}
    (h : lex.unwrap? markers name = some (marker, argument)) : argument.length < name.length := by
  obtain ⟨m, _, hm⟩ := List.exists_of_findSome?_eq_some h
  split at hm
  next a _ =>
    split at hm
    next hlt =>
      injection hm with hm
      injection hm with _ hm
      exact hm ▸ hlt
    next => simp at hm
  next => simp at hm

/-- The name without the bound marker it starts with. -/
def unbound? (lex : Lexicon) (name : Text) : Option Text :=
  if lex.boundMarker ≠ [] ∧ lex.boundMarker <+: name then some (name.drop lex.boundMarker.length)
  else none

theorem length_of_unbound? {lex : Lexicon} {name rest : Text}
    (h : lex.unbound? name = some rest) : rest.length < name.length := by
  unfold unbound? at h
  split at h
  next hp =>
    injection h with h
    subst h
    have h1 := hp.2.length_le
    have h2 : 0 < lex.boundMarker.length := List.length_pos_iff.mpr hp.1
    simp only [List.length_drop]
    omega
  next => simp at h

end Lexicon

namespace TypeExpr

/-- The marker of a list or optional, kept only where it is not the language's own. -/
def keptMarker (own marker : Text) : Option Text := if marker = own then none else some marker

def parse (lex : Lexicon) (name : Text) : TypeExpr :=
  match _ : lex.unbound? name with
  | some rest => .bounded (parse lex rest)
  | none =>
    match _ : lex.unwrap? lex.listMarkers name with
    | some (marker, argument) => .list (parse lex argument) (keptMarker lex.listMarker marker)
    | none =>
      match _ : lex.unwrap? lex.optionalMarkers name with
      | some (marker, argument) =>
        .optional (parse lex argument) (keptMarker lex.optionalMarker marker)
      | none => if name ∈ lex.primitives then .primitive name else .named name
termination_by name.length
decreasing_by
  · exact Lexicon.length_of_unbound? ‹_›
  · exact Lexicon.length_of_unwrap? ‹_›
  · exact Lexicon.length_of_unwrap? ‹_›

/-! ## Lemmas -/

theorem parse_of_unbound? {lex : Lexicon} {name rest : Text} (h : lex.unbound? name = some rest) :
    parse lex name = .bounded (parse lex rest) := by
  rw [parse]
  split
  · next r hr =>
    rw [h, Option.some.injEq] at hr
    rw [hr]
  · next hr =>
    rw [h] at hr
    cases hr

theorem parse_of_list {lex : Lexicon} {name marker argument : Text}
    (hb : lex.unbound? name = none)
    (h : lex.unwrap? lex.listMarkers name = some (marker, argument)) :
    parse lex name = .list (parse lex argument) (keptMarker lex.listMarker marker) := by
  rw [parse]
  split
  · next r hr =>
    rw [hb] at hr
    cases hr
  · split
    · next m a hm =>
      rw [h, Option.some.injEq, Prod.mk.injEq] at hm
      rw [hm.1, hm.2]
    · next hm =>
      rw [h] at hm
      cases hm

theorem parse_of_not_list {lex : Lexicon} {name : Text} (hb : lex.unbound? name = none)
    (hl : lex.unwrap? lex.listMarkers name = none) :
    parse lex name =
      match lex.unwrap? lex.optionalMarkers name with
      | some (marker, argument) =>
        .optional (parse lex argument) (keptMarker lex.optionalMarker marker)
      | none => if name ∈ lex.primitives then .primitive name else .named name := by
  rw [parse]
  split
  · next r hr =>
    rw [hb] at hr
    cases hr
  · split
    · next m a hm =>
      rw [hl] at hm
      cases hm
    · split
      · next m a hm => rw [hm]
      · next hm => rw [hm]

theorem depth_parse (lex : Lexicon) (name : Text) : (parse lex name).depth ≤ name.length := by
  fun_induction parse lex name with
  | case1 name rest hb ih =>
    have := Lexicon.length_of_unbound? hb
    simp only [depth]
    omega
  | case2 name hb marker argument hl ih =>
    have := Lexicon.length_of_unwrap? hl
    simp only [depth]
    omega
  | case3 name hb hl marker argument ho ih =>
    have := Lexicon.length_of_unwrap? ho
    simp only [depth]
    omega
  | case4 => simp [depth]
  | case5 => simp [depth]

end TypeExpr

end TargetTypes
