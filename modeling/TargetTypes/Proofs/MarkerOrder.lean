import TargetTypes.Proofs.Marker

/-!
# The order of markers

Markers are tried one after the other, lists before optionals, and the first that fits is taken.
Where the opening bracket is one character that no marker has, a marker ends where the first bracket
of the name opens; so at most one fits, even if one marker is the beginning of another. What is read
is then a matter of which markers there are, and not of their order or of how often they are given.

    the same markers in any order find the same element            (unwrap?_eq_of_same)
    so a name reads the same, at every depth                       (parse_withAliases)
    with the optionals tried first it reads the same               (parseOptionalsFirst_eq)
    neither order nor repetition of markers matters                (parse_markerOrder)
-/

namespace TargetTypes

namespace Lexicon

/-- The lexicon with other aliases. -/
def withAliases (lex : Lexicon) (lists optionals : List Text) : Lexicon :=
  { lex with listAliases := lists, optionalAliases := optionals }

/-- The aliases of the lexicon, in any order and each as often as one likes. -/
structure SameAliases (lex : Lexicon) (lists optionals : List Text) : Prop where
  lists : ∀ marker, marker ∈ lists ↔ marker ∈ lex.listAliases
  optionals : ∀ marker, marker ∈ optionals ↔ marker ∈ lex.optionalAliases

end Lexicon

/-! ## Algorithm -/

/-- Reading with the markers of optionals tried before those of lists. -/
def TypeExpr.parseOptionalsFirst (lex : Lexicon) (name : Text) : TypeExpr :=
  match _ : lex.unbound? name with
  | some rest => .bounded (parseOptionalsFirst lex rest)
  | none =>
    match _ : lex.unwrap? lex.optionalMarkers name with
    | some (marker, argument) =>
      .optional (parseOptionalsFirst lex argument) (keptMarker lex.optionalMarker marker)
    | none =>
      match _ : lex.unwrap? lex.listMarkers name with
      | some (marker, argument) =>
        .list (parseOptionalsFirst lex argument) (keptMarker lex.listMarker marker)
      | none => if name ∈ lex.primitives then .primitive name else .named name
termination_by name.length
decreasing_by
  · exact Lexicon.length_of_unbound? ‹_›
  · exact Lexicon.length_of_unwrap? ‹_›
  · exact Lexicon.length_of_unwrap? ‹_›

/-! ## Searching in another order -/

namespace Lexicon

namespace SameAliases

variable {lex : Lexicon} {lists optionals : List Text} (h : lex.SameAliases lists optionals)

include h

theorem mem_listMarkers (marker : Text) :
    marker ∈ (lex.withAliases lists optionals).listMarkers ↔ marker ∈ lex.listMarkers := by
  simp only [listMarkers, withAliases, List.mem_cons, h.lists]

theorem mem_optionalMarkers (marker : Text) :
    marker ∈ (lex.withAliases lists optionals).optionalMarkers ↔ marker ∈ lex.optionalMarkers := by
  simp only [optionalMarkers, withAliases, List.mem_cons, h.optionals]

theorem mem_markers (marker : Text) :
    marker ∈ (lex.withAliases lists optionals).markers ↔ marker ∈ lex.markers := by
  rw [markers, markers, List.mem_append, List.mem_append, h.mem_listMarkers,
    h.mem_optionalMarkers]

end SameAliases

namespace Delimited

open TypeExpr

variable {lex : Lexicon} (h : lex.Delimited)

include h

theorem unwrap?_eq_of_same {markers others : List Text} (hsub : markers ⊆ lex.markers)
    (hsame : ∀ marker, marker ∈ others ↔ marker ∈ markers) (name : Text) :
    lex.unwrap? others name = lex.unwrap? markers name := by
  have hsub' : others ⊆ lex.markers := fun marker hm => hsub ((hsame marker).mp hm)
  apply Option.ext
  rintro ⟨marker, argument⟩
  rw [h.unwrap?_eq_some_iff hsub', h.unwrap?_eq_some_iff hsub, hsame]

/-- Where no marker is both a list's and an optional's, a name that is found as one is not found
as the other. -/
theorem unwrap?_list_eq_none (hdisjoint : ∀ marker ∈ lex.listMarkers, marker ∉ lex.optionalMarkers)
    {name marker argument : Text}
    (ho : lex.unwrap? lex.optionalMarkers name = some (marker, argument)) :
    lex.unwrap? lex.listMarkers name = none := by
  cases hl : lex.unwrap? lex.listMarkers name with
  | none => rfl
  | some found =>
    obtain ⟨other, inner⟩ := found
    obtain ⟨hm, ha⟩ := argument?_of_unwrap? ho
    obtain ⟨hother, hi⟩ := argument?_of_unwrap? hl
    have he : other = marker := h.eq_of_argument?_isSome (lex.listMarkers_subset hother)
      (lex.optionalMarkers_subset hm) (Option.isSome_of_eq_some hi) (Option.isSome_of_eq_some ha)
    rw [he] at hother
    exact absurd hm (hdisjoint marker hother)

/-! ## Reading in another order -/

section

variable {lists optionals : List Text} (hsame : lex.SameAliases lists optionals)

include hsame

theorem withAliases : (lex.withAliases lists optionals).Delimited where
  opening_length := h.opening_length
  unopened := fun marker hm => h.unopened marker ((hsame.mem_markers marker).mp hm)

theorem unwrap?_list_withAliases (name : Text) :
    (lex.withAliases lists optionals).unwrap? (lex.withAliases lists optionals).listMarkers name =
      lex.unwrap? lex.listMarkers name :=
  h.unwrap?_eq_of_same lex.listMarkers_subset hsame.mem_listMarkers name

theorem unwrap?_optional_withAliases (name : Text) :
    (lex.withAliases lists optionals).unwrap? (lex.withAliases lists optionals).optionalMarkers
      name = lex.unwrap? lex.optionalMarkers name :=
  h.unwrap?_eq_of_same lex.optionalMarkers_subset hsame.mem_optionalMarkers name

/-- At every depth: the element that a marker leaves is the same, and so is what it reads as. -/
theorem parse_withAliases (name : Text) :
    parse (lex.withAliases lists optionals) name = parse lex name := by
  have hbound (name : Text) : (lex.withAliases lists optionals).unbound? name = lex.unbound? name :=
    rfl
  have hlist (name : Text) := h.unwrap?_list_withAliases hsame name
  have hoptional (name : Text) := h.unwrap?_optional_withAliases hsame name
  fun_induction parse lex name with
  | case1 name rest hb ih => rw [parse_of_unbound? ((hbound name).trans hb), ih]
  | case2 name hb marker argument hl ih =>
    rw [parse_of_list ((hbound name).trans hb) ((hlist name).trans hl), ih]
    rfl
  | case3 name hb hl marker argument ho ih =>
    rw [parse_of_not_list ((hbound name).trans hb) ((hlist name).trans hl),
      (hoptional name).trans ho]
    show TypeExpr.optional (parse (lex.withAliases lists optionals) argument) _ = _
    rw [ih]
    rfl
  | case4 name hb hl ho hp =>
    rw [parse_of_not_list ((hbound name).trans hb) ((hlist name).trans hl),
      (hoptional name).trans ho]
    exact if_pos hp
  | case5 name hb hl ho hp =>
    rw [parse_of_not_list ((hbound name).trans hb) ((hlist name).trans hl),
      (hoptional name).trans ho]
    exact if_neg hp

end

theorem parseOptionalsFirst_eq (hdisjoint : ∀ marker ∈ lex.listMarkers, marker ∉ lex.optionalMarkers)
    (name : Text) : parseOptionalsFirst lex name = parse lex name := by
  fun_induction parseOptionalsFirst lex name with
  | case1 name rest hb ih => rw [parse_of_unbound? hb, ih]
  | case2 name hb marker argument ho ih =>
    rw [parse_of_not_list hb (h.unwrap?_list_eq_none hdisjoint ho), ho, ih]
  | case3 name hb ho marker argument hl ih => rw [parse_of_list hb hl, ih]
  | case4 name hb ho hl hp =>
    rw [parse_of_not_list hb hl, ho]
    exact (if_pos hp).symm
  | case5 name hb ho hl hp =>
    rw [parse_of_not_list hb hl, ho]
    exact (if_neg hp).symm

end Delimited

end Lexicon

/-! ## The order of markers does not matter -/

/-- With an opening bracket of one character that is in no marker: at most one of the markers fits a
name; and a name reads as the same expression whatever the order of the aliases and however often
each is given, also with the optionals tried first if no marker is a list's and an optional's. -/
theorem TypeExpr.parse_markerOrder {lex : Lexicon} (h : lex.Delimited) (name : Text) :
    (∀ marker ∈ lex.markers, ∀ other ∈ lex.markers,
      (lex.brackets.argument? marker name).isSome = true →
      (lex.brackets.argument? other name).isSome = true → marker = other) ∧
    ∀ lists optionals : List Text, (∀ m, m ∈ lists ↔ m ∈ lex.listAliases) →
      (∀ m, m ∈ optionals ↔ m ∈ lex.optionalAliases) →
      parse (lex.withAliases lists optionals) name = parse lex name ∧
      ((∀ marker ∈ lex.listMarkers, marker ∉ lex.optionalMarkers) →
        parseOptionalsFirst (lex.withAliases lists optionals) name = parse lex name) := by
  refine ⟨fun marker hm other ho => h.eq_of_argument?_isSome hm ho, ?_⟩
  intro lists optionals hlists hoptionals
  have hsame : lex.SameAliases lists optionals := ⟨hlists, hoptionals⟩
  have hparse := h.parse_withAliases hsame name
  refine ⟨hparse, fun hdisjoint => ?_⟩
  rw [← hparse]
  apply (h.withAliases hsame).parseOptionalsFirst_eq
  intro marker hm ho
  exact hdisjoint marker ((hsame.mem_listMarkers marker).mp hm)
    ((hsame.mem_optionalMarkers marker).mp ho)

/-- Markers that begin alike, and an opening bracket that is not the usual one. -/
def barred : Lexicon where
  listMarker := "List"
  optionalMarker := "Opt"
  boundMarker := "out "
  brackets := ⟨"|", "]"⟩
  listAliases := ["ListOf", "a.List"]
  optionalAliases := ["Option", "O"]
  primitives := ["Int"]

def barredName : Text := "ListOf|Option|out a.List|Int]]]"

def barredType : TypeExpr :=
  .list (.optional (.bounded (.list (.primitive "Int") (some "a.List"))) (some "Option"))
    (some "ListOf")

theorem parse_barred_reordered :
    barred.Delimited ∧ (∀ marker ∈ barred.listMarkers, marker ∉ barred.optionalMarkers) ∧
      TypeExpr.parse (barred.withAliases ["a.List", "ListOf", "a.List"] ["O", "Option"])
        barredName = barredType ∧
      TypeExpr.parseOptionalsFirst (barred.withAliases ["a.List", "ListOf", "a.List"]
        ["O", "Option"]) barredName = barredType := by
  have h : barred.Delimited := ⟨rfl, by decide⟩
  have hdisjoint : ∀ marker ∈ barred.listMarkers, marker ∉ barred.optionalMarkers := by decide
  have hlists (m : Text) : m ∈ (["a.List", "ListOf", "a.List"] : List Text) ↔
      m ∈ barred.listAliases := by grind [barred]
  have hoptionals (m : Text) : m ∈ (["O", "Option"] : List Text) ↔ m ∈ barred.optionalAliases := by
    grind [barred]
  have hread : TypeExpr.parse barred barredName = barredType := by decide +kernel
  obtain ⟨hparse, hfirst⟩ := (TypeExpr.parse_markerOrder h barredName).2 _ _ hlists hoptionals
  exact ⟨h, hdisjoint, hparse.trans hread, (hfirst hdisjoint).trans hread⟩

end TargetTypes
