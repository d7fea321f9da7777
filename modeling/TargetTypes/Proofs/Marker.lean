import TargetTypes.Language
import TargetTypes.Proofs.Balance
import TargetTypes.TypeExpr.Parse
import TargetTypes.TypeExpr.Render

/-!
# Markers

What has to be true of a lexicon's markers for reading and writing to undo each other.
`Restorable`: what reading takes off a name can be put back. `Delimited`: a marker ends at the first
opening bracket, so a name shows one marker only. `Legible`: what writing puts around a name is seen
again, since the lexicon is delimited, no name of a list or an optional is that of a bound, and
primitives look like nothing but primitives.

    name = enclose marker argument             where the marker was taken off      (eq_enclose_of_unwrap?)
    a marker that is there and fits is found   in a delimited lexicon                (unwrap?_eq_some_iff)
    a marker put around a name is taken off    in a legible lexicon                     (unwrap?_enclose)
    both target languages are legible                                                            (legible)
-/

namespace TargetTypes

namespace Lexicon

/-- Every way to write a list or an optional. -/
def markers (lex : Lexicon) : List Text := lex.listMarkers ++ lex.optionalMarkers

/-- What reading takes off a name can be put back. -/
structure Restorable (lex : Lexicon) : Prop where
  no_slot : ∀ marker ∈ lex.markers, ¬ ("%s" : Text) <:+: marker
  alias_ne_nil : ∀ marker ∈ lex.listAliases ++ lex.optionalAliases, marker ≠ []
  form_ne_nil : ∀ marker ∈ lex.markers,
    marker ++ lex.brackets.opening ++ lex.brackets.closing ≠ []
  apart : ∀ marker ∈ lex.markers,
    Brackets.Apart (marker ++ lex.brackets.opening) lex.brackets.closing

/-- A marker ends where the first bracket opens: that is one character, and no marker has it. -/
structure Delimited (lex : Lexicon) : Prop where
  opening_length : lex.brackets.opening.length = 1
  unopened : ∀ marker ∈ lex.markers, lex.brackets.Unopened marker

/-- What writing puts around a name is seen again. -/
structure Legible (lex : Lexicon) : Prop where
  paired : lex.brackets.Paired
  unbracketed : ∀ text ∈ lex.boundMarker :: lex.markers ++ lex.primitives ++ lex.boxes.map Prod.snd,
    lex.brackets.Unbracketed text
  no_slot : ∀ marker ∈ lex.markers, Text.hasSlot marker = false
  alias_ne_nil : ∀ marker ∈ lex.listAliases ++ lex.optionalAliases, marker ≠ []
  list_not_alias : lex.listMarker ∉ lex.listAliases
  optional_not_alias : lex.optionalMarker ∉ lex.optionalAliases
  disjoint : ∀ marker ∈ lex.listMarkers, marker ∉ lex.optionalMarkers
  unbound : ∀ text ∈ lex.markers ++ lex.primitives ++ lex.boxes.map Prod.snd,
    ¬ lex.boundMarker <+: text
  boxes_primitive : ∀ entry ∈ lex.boxes, entry.1 ∈ lex.primitives ∧ entry.2 ∉ lex.primitives

/-! ## Taking markers off -/

theorem eq_append_of_unbound? {lex : Lexicon} {name rest : Text}
    (h : lex.unbound? name = some rest) : name = lex.boundMarker ++ rest := by
  unfold unbound? at h
  split at h
  · next hb =>
    rw [Option.some.injEq] at h
    rw [← h]
    exact (List.prefix_iff_eq_append.mp hb.2).symm
  · cases h

theorem unbound?_append {lex : Lexicon} (hb : lex.boundMarker ≠ []) (rest : Text) :
    lex.unbound? (lex.boundMarker ++ rest) = some rest := by
  unfold unbound?
  rw [if_pos ⟨hb, List.prefix_append _ _⟩, List.drop_left]

theorem unbound?_eq_none {lex : Lexicon} {name : Text} (h : ¬ lex.boundMarker <+: name) :
    lex.unbound? name = none := by
  unfold unbound?
  rw [if_neg fun hb => h hb.2]

theorem argument?_of_unwrap? {lex : Lexicon} {markers : List Text} {name marker argument : Text}
    (h : lex.unwrap? markers name = some (marker, argument)) :
    marker ∈ markers ∧ lex.brackets.argument? marker name = some argument := by
  obtain ⟨m, hmem, hm⟩ := List.exists_of_findSome?_eq_some h
  split at hm
  · next a ha =>
    split at hm
    · simp only [Option.some.injEq, Prod.mk.injEq] at hm
      obtain ⟨rfl, rfl⟩ := hm
      exact ⟨hmem, ha⟩
    · cases hm
  · cases hm

theorem eq_enclose_of_unwrap? {lex : Lexicon} (hr : lex.Restorable) {markers : List Text}
    (hsub : markers ⊆ lex.markers) {name marker argument : Text}
    (h : lex.unwrap? markers name = some (marker, argument)) :
    name = lex.brackets.enclose marker argument := by
  obtain ⟨hmem, harg⟩ := argument?_of_unwrap? h
  exact Brackets.eq_enclose_of_argument? harg (hr.apart marker (hsub hmem))

/-- Every argument is shorter than its name, so no form is passed over. -/
theorem unwrap?_eq_none_iff {lex : Lexicon} {markers : List Text}
    (hform : ∀ marker ∈ markers, marker ++ lex.brackets.opening ++ lex.brackets.closing ≠ [])
    {name : Text} :
    lex.unwrap? markers name = none ↔
      ∀ marker ∈ markers, lex.brackets.argument? marker name = none := by
  unfold unwrap?
  rw [List.findSome?_eq_none_iff]
  refine forall₂_congr fun marker hm => ?_
  cases ha : lex.brackets.argument? marker name with
  | none => simp
  | some argument =>
    have hlt := Brackets.length_of_argument? ha (hform marker hm)
    simp [hlt]

theorem listMarkers_subset (lex : Lexicon) : lex.listMarkers ⊆ lex.markers :=
  List.subset_append_left _ _

theorem optionalMarkers_subset (lex : Lexicon) : lex.optionalMarkers ⊆ lex.markers :=
  List.subset_append_right _ _

/-! ## The marker kept and the marker written -/

theorem writtenMarker_keptMarker {own : Text} {aliases : List Text} (hne : ∀ m ∈ aliases, m ≠ [])
    {marker : Text} (hm : marker ∈ own :: aliases) :
    TypeExpr.writtenMarker own (TypeExpr.keptMarker own marker) = marker := by
  unfold TypeExpr.keptMarker
  split
  · next he => exact he.symm
  · next hown =>
    rcases List.mem_cons.mp hm with he | ha
    · exact absurd he hown
    · cases marker with
      | nil => exact absurd rfl (hne [] ha)
      | cons c r => rfl

theorem mem_of_mem_keptMarker {own : Text} {aliases : List Text} {marker : Text}
    (hm : marker ∈ own :: aliases) : ∀ m ∈ TypeExpr.keptMarker own marker, m ∈ aliases := by
  intro m hk
  unfold TypeExpr.keptMarker at hk
  split at hk
  · cases hk
  · next hown =>
    rw [Option.mem_some.mp hk] at hm hown
    exact (List.mem_cons.mp hm).resolve_left hown

theorem keptMarker_writtenMarker {own : Text} {aliases : List Text} (hne : ∀ m ∈ aliases, m ≠ [])
    (hown : own ∉ aliases) {marker : Option Text} (hm : ∀ m ∈ marker, m ∈ aliases) :
    TypeExpr.writtenMarker own marker ∈ own :: aliases ∧
      TypeExpr.keptMarker own (TypeExpr.writtenMarker own marker) = marker := by
  cases marker with
  | none => exact ⟨List.mem_cons_self, if_pos rfl⟩
  | some m =>
    have ha := hm m rfl
    have hw : TypeExpr.writtenMarker own (some m) = m := by
      cases m with
      | nil => exact absurd rfl (hne [] ha)
      | cons c r => rfl
    rw [hw]
    refine ⟨List.mem_cons_of_mem _ ha, if_neg ?_⟩
    rintro rfl
    exact hown ha

/-! ## Delimited lexicons -/

namespace Delimited

variable {lex : Lexicon} (h : lex.Delimited)

include h

theorem form_ne_nil (marker : Text) :
    marker ++ lex.brackets.opening ++ lex.brackets.closing ≠ [] := by
  intro he
  have := h.opening_length
  simp only [List.append_eq_nil_iff] at he
  rw [he.1.2] at this
  cases this

theorem eq_of_opened_prefix {marker other name : Text} (hm : marker ∈ lex.markers)
    (ho : other ∈ lex.markers) (hpre : marker ++ lex.brackets.opening <+: name)
    (hpre' : other ++ lex.brackets.opening <+: name) : marker = other :=
  Brackets.eq_of_opened_prefix h.opening_length (h.unopened marker hm) (h.unopened other ho)
    hpre hpre'

theorem eq_of_argument?_isSome {marker other name : Text} (hm : marker ∈ lex.markers)
    (ho : other ∈ lex.markers) (hmarker : (lex.brackets.argument? marker name).isSome = true)
    (hother : (lex.brackets.argument? other name).isSome = true) : marker = other := by
  obtain ⟨argument, ha⟩ := Option.isSome_iff_exists.mp hmarker
  obtain ⟨inner, hi⟩ := Option.isSome_iff_exists.mp hother
  have hpre := (Brackets.argument?_eq_some_iff.mp ha).1.1
  have hpre' := (Brackets.argument?_eq_some_iff.mp hi).1.1
  exact h.eq_of_opened_prefix hm ho hpre hpre'

/-- Which marker is found does not hang on the order of the search. -/
theorem unwrap?_eq_some_iff {markers : List Text} (hsub : markers ⊆ lex.markers)
    {name marker argument : Text} :
    lex.unwrap? markers name = some (marker, argument) ↔
      marker ∈ markers ∧ lex.brackets.argument? marker name = some argument := by
  constructor
  · exact argument?_of_unwrap?
  · rintro ⟨hm, ha⟩
    cases hu : lex.unwrap? markers name with
    | none =>
      have := (unwrap?_eq_none_iff fun m _ => h.form_ne_nil m).mp hu marker hm
      rw [ha] at this
      cases this
    | some found =>
      obtain ⟨other, inner⟩ := found
      obtain ⟨ho, hi⟩ := argument?_of_unwrap? hu
      have he : other = marker := h.eq_of_argument?_isSome (hsub ho) (hsub hm)
        (Option.isSome_of_eq_some hi) (Option.isSome_of_eq_some ha)
      subst he
      rw [ha, Option.some.injEq] at hi
      rw [hi]

end Delimited

/-! ## Legible lexicons -/

namespace Legible

variable {lex : Lexicon} (h : lex.Legible)

include h

theorem unbracketed_marker {marker : Text} (hm : marker ∈ lex.markers) :
    lex.brackets.Unbracketed marker := by
  apply h.unbracketed
  simp only [List.mem_append, List.mem_cons]
  exact Or.inl (Or.inl (Or.inr hm))

theorem delimited : lex.Delimited where
  opening_length := h.paired.opening_length
  unopened := fun _ hm => (h.unbracketed_marker hm).unopened

theorem restorable : lex.Restorable where
  no_slot := by
    intro marker hm hslot
    have := h.no_slot marker hm
    rw [Text.hasSlot_iff.mpr hslot] at this
    cases this
  alias_ne_nil := h.alias_ne_nil
  form_ne_nil := fun marker _ => h.delimited.form_ne_nil marker
  apart := fun marker _ => Brackets.apart_of_paired h.paired marker

theorem unbracketed_bound : lex.brackets.Unbracketed lex.boundMarker := by
  apply h.unbracketed
  simp

theorem unbracketed_primitive {name : Text} (hp : name ∈ lex.primitives) :
    lex.brackets.Unbracketed name := by
  apply h.unbracketed
  simp only [List.mem_append, List.mem_cons]
  exact Or.inl (Or.inr hp)

theorem bound_ne_nil : lex.boundMarker ≠ [] := by
  intro he
  apply h.unbound lex.listMarker
  · simp [markers, listMarkers]
  · rw [he]
    exact List.nil_prefix

theorem not_bound_enclose {marker : Text} (hm : marker ∈ lex.markers) (argument : Text) :
    ¬ lex.boundMarker <+: lex.brackets.enclose marker argument := by
  rintro ⟨rest, hrest⟩
  obtain ⟨o, -, ho, -⟩ := h.paired.chars
  have hunbound : ¬ lex.boundMarker <+: marker := by
    apply h.unbound
    simp [hm]
  rw [Brackets.enclose, List.append_assoc, List.append_assoc, ho] at hrest
  rcases List.append_eq_append_iff.mp hrest with ⟨t, ht, -⟩ | ⟨t, ht1, ht2⟩
  · exact hunbound ⟨t, ht.symm⟩
  · -- the bound marker goes beyond the other one, so it holds the opening bracket
    cases t with
    | nil => exact hunbound ⟨[], by rw [ht1]; simp⟩
    | cons x t =>
      simp only [List.cons_append, List.nil_append, List.cons.injEq] at ht2
      have hx : x ∈ lex.boundMarker := by rw [ht1]; simp
      apply (h.unbracketed_bound x hx).1
      rw [ho, ht2.1]

/-- A name in brackets shows one marker only. -/
theorem eq_of_argument?_enclose {marker other argument inner : Text} (hm : marker ∈ lex.markers)
    (ho : other ∈ lex.markers)
    (ha : lex.brackets.argument? other (lex.brackets.enclose marker argument) = some inner) :
    other = marker ∧ inner = argument := by
  obtain ⟨⟨hpre, -, -⟩, hinside⟩ := Brackets.argument?_eq_some_iff.mp ha
  have hown : marker ++ lex.brackets.opening <+: lex.brackets.enclose marker argument :=
    ⟨argument ++ lex.brackets.closing, by simp [Brackets.enclose]⟩
  have he : other = marker := h.delimited.eq_of_opened_prefix ho hm hpre hown
  subst he
  rw [Brackets.inside_enclose] at hinside
  exact ⟨rfl, hinside.symm⟩

theorem unwrap?_enclose {markers : List Text} (hsub : markers ⊆ lex.markers) {marker : Text}
    (hm : marker ∈ markers) {argument : Text} (hb : lex.brackets.balanced argument = true) :
    lex.unwrap? markers (lex.brackets.enclose marker argument) = some (marker, argument) :=
  (h.delimited.unwrap?_eq_some_iff hsub).mpr ⟨hm, Brackets.argument?_enclose _ _ _ hb⟩

theorem unwrap?_enclose_of_not_mem {markers : List Text} (hsub : markers ⊆ lex.markers)
    {marker : Text} (hm : marker ∈ lex.markers) (hn : marker ∉ markers) (argument : Text) :
    lex.unwrap? markers (lex.brackets.enclose marker argument) = none := by
  rw [unwrap?_eq_none_iff fun m _ => h.delimited.form_ne_nil m]
  intro other ho
  cases ha : lex.brackets.argument? other (lex.brackets.enclose marker argument) with
  | none => rfl
  | some inner =>
    obtain ⟨rfl, -⟩ := h.eq_of_argument?_enclose hm (hsub ho) ha
    exact absurd ho hn

end Legible

end Lexicon

theorem Language.legible (lang : Language) : lang.lexicon.Legible := by
  cases lang <;> exact
    { paired := ⟨by decide, by decide, by decide⟩
      unbracketed := by decide
      no_slot := by decide
      alias_ne_nil := by decide
      list_not_alias := by decide
      optional_not_alias := by decide
      disjoint := by decide
      unbound := by decide
      boxes_primitive := by decide }

end TargetTypes
