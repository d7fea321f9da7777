import TargetTypes.Proofs.Marker

/-!
# Reading ends

A step of reading takes the bound marker, or a marker with its brackets, off a name and goes on with
what is left. The brackets may be of any length and may overlap in a short name, and the bound
marker may be empty; what is left is shorter all the same, as long as no marker is empty between
empty brackets. `parse` looks at the lengths before it goes on. The steps here do not, and still
they come to the same end, one step for each list, optional and bound there is.

    a step goes on with a shorter name                                    (length_of_step?)
    reading takes as many steps as there are layers                (readWithin_eq_some_iff)
    reading ends on every name just if no marker form is empty        (readWithin_ends_iff)
-/

namespace TargetTypes

namespace Lexicon

/-- The first marker the name is written with, and the argument, however long it is. -/
def form? (lex : Lexicon) (markers : List Text) (name : Text) : Option (Text × Text) :=
  markers.findSome? fun marker => (lex.brackets.argument? marker name).map (marker, ·)

theorem argument?_of_form? {lex : Lexicon} {markers : List Text} {name marker argument : Text}
    (h : lex.form? markers name = some (marker, argument)) :
    marker ∈ markers ∧ lex.brackets.argument? marker name = some argument := by
  obtain ⟨m, hmem, hm⟩ := List.exists_of_findSome?_eq_some h
  obtain ⟨a, ha, he⟩ := Option.map_eq_some_iff.mp hm
  obtain ⟨rfl, rfl⟩ := Prod.mk.inj he
  exact ⟨hmem, ha⟩

theorem argument?_of_form?_eq_none {lex : Lexicon} {markers : List Text} {name marker : Text}
    (h : lex.form? markers name = none) (hm : marker ∈ markers) :
    lex.brackets.argument? marker name = none :=
  Option.map_eq_none_iff.mp (List.findSome?_eq_none_iff.mp h marker hm)

/-- Where no form is empty, the look at the lengths passes nothing over. -/
theorem unwrap?_eq_form? {lex : Lexicon} {markers : List Text}
    (hform : ∀ marker ∈ markers, marker ++ lex.brackets.opening ++ lex.brackets.closing ≠ [])
    (name : Text) : lex.unwrap? markers name = lex.form? markers name := by
  induction markers with
  | nil => rfl
  | cons marker rest ih =>
    have hrest := ih fun m hm => hform m (List.mem_cons_of_mem _ hm)
    unfold unwrap? form? at hrest ⊢
    rw [List.findSome?_cons, List.findSome?_cons, hrest]
    cases ha : lex.brackets.argument? marker name with
    | none => rfl
    | some argument =>
      have hlt := Brackets.length_of_argument? ha (hform marker List.mem_cons_self)
      simp only [if_pos hlt, Option.map_some]

end Lexicon

namespace TypeExpr

/-! ## Algorithm -/

/-- What a step takes off a name. -/
inductive Layer where
  | bound
  | list (marker : Option Text)
  | optional (marker : Option Text)

def Layer.around : Layer → TypeExpr → TypeExpr
  | .bound, inner => .bounded inner
  | .list marker, inner => .list inner marker
  | .optional marker, inner => .optional inner marker

/-- One step: what is taken off, and the name to go on with. No length is looked at. -/
def step? (lex : Lexicon) (name : Text) : Option (Layer × Text) :=
  ((lex.unbound? name).map fun rest => (.bound, rest)).or <|
    ((lex.form? lex.listMarkers name).map fun (marker, argument) =>
      (.list (keptMarker lex.listMarker marker), argument)).or <|
        (lex.form? lex.optionalMarkers name).map fun (marker, argument) =>
          (.optional (keptMarker lex.optionalMarker marker), argument)

def leafOf (lex : Lexicon) (name : Text) : TypeExpr :=
  if lex.primitives.contains name then .primitive name else .named name

/-- Reading by steps, of which no more than so many may be nested; none if there are more. -/
def readWithin (lex : Lexicon) : Nat → Text → Option TypeExpr
  | 0, name =>
    match step? lex name with
    | some _ => none
    | none => some (leafOf lex name)
  | steps + 1, name =>
    match step? lex name with
    | some (layer, rest) => (readWithin lex steps rest).map layer.around
    | none => some (leafOf lex name)

/-! ## One step -/

theorem leafOf_eq (lex : Lexicon) (name : Text) :
    leafOf lex name = if name ∈ lex.primitives then .primitive name else .named name := by
  simp only [leafOf, List.contains_iff_mem]

theorem depth_leafOf (lex : Lexicon) (name : Text) : (leafOf lex name).depth = 0 := by
  unfold leafOf
  split <;> rfl

/-- A leaf takes no step, so any number is enough. -/
theorem some_leafOf_eq_iff (lex : Lexicon) (name : Text) (steps : Nat) {type : TypeExpr} :
    some (leafOf lex name) = some type ↔ type = leafOf lex name ∧ type.depth ≤ steps := by
  rw [Option.some.injEq, @eq_comm _ type]
  refine (and_iff_left_of_imp ?_).symm
  rintro rfl
  rw [depth_leafOf]
  exact Nat.zero_le steps

theorem depth_around (layer : Layer) (inner : TypeExpr) :
    (layer.around inner).depth = inner.depth + 1 := by
  cases layer <;> rfl

/-- A step takes off the bound marker, or finds the name in the brackets of a marker. -/
theorem step?_cases {lex : Lexicon} {name rest : Text} {layer : Layer}
    (h : step? lex name = some (layer, rest)) :
    lex.unbound? name = some rest ∨
      ∃ marker ∈ lex.markers, lex.brackets.argument? marker name = some rest := by
  simp only [step?, Option.or_eq_some_iff, Option.map_eq_some_iff, Prod.mk.injEq] at h
  rcases h with ⟨left, hb, -, rfl⟩ | ⟨-, ⟨found, hl, -, rfl⟩ | ⟨-, found, ho, -, rfl⟩⟩
  · exact Or.inl hb
  · obtain ⟨hm, ha⟩ := Lexicon.argument?_of_form? hl
    exact Or.inr ⟨found.1, lex.listMarkers_subset hm, ha⟩
  · obtain ⟨hm, ha⟩ := Lexicon.argument?_of_form? ho
    exact Or.inr ⟨found.1, lex.optionalMarkers_subset hm, ha⟩

/-- Without a step to take, no marker is there. -/
theorem argument?_of_step?_eq_none {lex : Lexicon} {name marker : Text}
    (h : step? lex name = none) (hm : marker ∈ lex.markers) :
    lex.brackets.argument? marker name = none := by
  simp only [step?, Option.or_eq_none_iff, Option.map_eq_none_iff] at h
  obtain ⟨-, hl, ho⟩ := h
  rcases List.mem_append.mp hm with hlist | hoptional
  · exact Lexicon.argument?_of_form?_eq_none hl hlist
  · exact Lexicon.argument?_of_form?_eq_none ho hoptional

section

variable {lex : Lexicon}
  (hform : ∀ marker ∈ lex.markers, marker ++ lex.brackets.opening ++ lex.brackets.closing ≠ [])

include hform

theorem length_of_step? {name rest : Text} {layer : Layer}
    (h : step? lex name = some (layer, rest)) : rest.length < name.length := by
  rcases step?_cases h with hb | ⟨marker, hm, ha⟩
  · exact Lexicon.length_of_unbound? hb
  · exact Brackets.length_of_argument? ha (hform marker hm)

/-- Reading is a step, and reading what it leaves. -/
theorem parse_eq_step (name : Text) :
    parse lex name =
      match step? lex name with
      | some (layer, rest) => layer.around (parse lex rest)
      | none => leafOf lex name := by
  have hlist := Lexicon.unwrap?_eq_form? (fun m hm => hform m (lex.listMarkers_subset hm)) name
  have hoptional :=
    Lexicon.unwrap?_eq_form? (fun m hm => hform m (lex.optionalMarkers_subset hm)) name
  unfold step?
  cases hb : lex.unbound? name with
  | some rest => exact parse_of_unbound? hb
  | none =>
    cases hl : lex.form? lex.listMarkers name with
    | some found => exact parse_of_list hb (hlist.trans hl)
    | none =>
      rw [parse_of_not_list hb (hlist.trans hl), hoptional]
      cases lex.form? lex.optionalMarkers name with
      | some found => rfl
      | none => exact (leafOf_eq lex name).symm

/-! ## All steps -/

/-- Each layer of the expression is one nested step. -/
theorem readWithin_eq_some_iff {steps : Nat} {name : Text} {type : TypeExpr} :
    readWithin lex steps name = some type ↔ type = parse lex name ∧ type.depth ≤ steps := by
  induction steps generalizing name type with
  | zero =>
    rw [readWithin, parse_eq_step hform]
    cases step? lex name with
    | none => exact some_leafOf_eq_iff lex name 0
    | some next =>
      simp only [reduceCtorEq, false_iff, not_and, Nat.le_zero]
      rintro rfl
      rw [depth_around]
      exact Nat.succ_ne_zero _
  | succ steps ih =>
    rw [readWithin, parse_eq_step hform]
    cases step? lex name with
    | none => exact some_leafOf_eq_iff lex name (steps + 1)
    | some next =>
      obtain ⟨layer, rest⟩ := next
      simp only [Option.map_eq_some_iff, ih]
      constructor
      · rintro ⟨inner, ⟨rfl, hdepth⟩, rfl⟩
        rw [depth_around]
        exact ⟨rfl, Nat.succ_le_succ hdepth⟩
      · rintro ⟨rfl, hdepth⟩
        rw [depth_around] at hdepth
        exact ⟨_, ⟨rfl, Nat.le_of_succ_le_succ hdepth⟩, rfl⟩

/-- Whatever the brackets and the bound marker are, if no marker is empty between empty brackets, a
step goes on with a shorter name. So reading ends: no more steps are nested than the name has
characters, and no more lists, optionals and bounds stand in the expression that is read. -/
theorem parse_descends (name : Text) :
    (∀ layer rest, step? lex name = some (layer, rest) → rest.length < name.length) ∧
      readWithin lex name.length name = some (parse lex name) ∧
      (parse lex name).depth ≤ name.length :=
  ⟨fun _ _ => length_of_step? hform,
    (readWithin_eq_some_iff hform).mpr ⟨rfl, depth_parse lex name⟩, depth_parse lex name⟩

end

/-- Brackets of two characters each, one of which they share in a short name; every name starts with
the bound marker. -/
def tied : Lexicon where
  listMarker := "L"
  optionalMarker := ""
  boundMarker := ""
  brackets := ⟨"(<", "<)"⟩

theorem readWithin_tied_lists :
    (∀ marker ∈ tied.markers,
        marker ++ tied.brackets.opening ++ tied.brackets.closing ≠ []) ∧
      readWithin tied 9 "L(<L(<)<)" = some (.list (.list (.named []) none) none) := by
  have hform : ∀ marker ∈ tied.markers,
      marker ++ tied.brackets.opening ++ tied.brackets.closing ≠ [] := by decide
  have hread : parse tied "L(<L(<)<)" = .list (.list (.named []) none) none := by decide +kernel
  refine ⟨hform, ?_⟩
  rw [← hread]
  exact (parse_descends hform "L(<L(<)<)").2.1

/-! ## Where reading does not end -/

/-- The ends of the empty name leave nothing between them. -/
theorem eq_nil_of_step?_nil {lex : Lexicon} {rest : Text} {layer : Layer}
    (h : step? lex [] = some (layer, rest)) : rest = [] := by
  rcases step?_cases h with hb | ⟨marker, -, ha⟩
  · have := Lexicon.length_of_unbound? hb
    exact absurd this (Nat.not_lt_zero _)
  · obtain ⟨-, rfl⟩ := Brackets.argument?_eq_some_iff.mp ha
    simp [Brackets.inside]

theorem exists_step?_nil {lex : Lexicon} {marker : Text} (hm : marker ∈ lex.markers)
    (hempty : marker ++ lex.brackets.opening ++ lex.brackets.closing = []) :
    ∃ layer, step? lex [] = some (layer, []) := by
  have hform : lex.brackets.enclose marker [] = [] := by simpa [Brackets.enclose] using hempty
  have hargument : lex.brackets.argument? marker [] = some [] := by
    have := lex.brackets.argument?_enclose marker [] rfl
    rwa [hform] at this
  cases hstep : step? lex [] with
  | none =>
    rw [argument?_of_step?_eq_none hstep hm] at hargument
    cases hargument
  | some next =>
    obtain ⟨layer, rest⟩ := next
    obtain rfl := eq_nil_of_step?_nil hstep
    exact ⟨layer, rfl⟩

/-- The markers have to be as they are asked for: reading ends on every name only then. -/
theorem readWithin_ends_iff {lex : Lexicon} :
    (∀ name, ∃ steps, (readWithin lex steps name).isSome = true) ↔
      ∀ marker ∈ lex.markers, marker ++ lex.brackets.opening ++ lex.brackets.closing ≠ [] := by
  constructor
  · intro hends marker hm hempty
    obtain ⟨layer, hstep⟩ := exists_step?_nil hm hempty
    have hnever (steps : Nat) : readWithin lex steps [] = none := by
      induction steps with
      | zero => rw [readWithin, hstep]
      | succ steps ih => simp only [readWithin, hstep, ih, Option.map_none]
    obtain ⟨steps, hsome⟩ := hends []
    rw [hnever] at hsome
    cases hsome
  · intro hform name
    have hread := (readWithin_eq_some_iff hform).mpr ⟨rfl, depth_parse lex name⟩
    exact ⟨_, Option.isSome_of_eq_some hread⟩

end TypeExpr

end TargetTypes
