import TargetTypes.Proofs.WellFormed

/-!
# Names in lists and optionals

What the wrapping steps write, and how it reads. A name that is balanced is read as the element
it was; an unbalanced one makes a name that is no list, whatever was wrapped around it.

    a list of a balanced name is balanced, with nothing left to box  (balanced_listOf, box_listOf)
    a list of a balanced name reads as a list of what its box reads as        (parse_listOf)
    an optional never reads as a list                                (isList_parse_optionalOf)
    boxing a name is writing what it reads as into a generic          (box_eq_renderArgument)
-/

namespace TargetTypes.Language

theorem listMarker_mem (lang : Language) : lang.lexicon.listMarker ∈ lang.lexicon.listMarkers :=
  List.mem_cons_self

theorem optionalMarker_mem (lang : Language) :
    lang.lexicon.optionalMarker ∈ lang.lexicon.optionalMarkers := List.mem_cons_self

theorem listMarker_mem_markers (lang : Language) :
    lang.lexicon.listMarker ∈ lang.lexicon.markers :=
  lang.lexicon.listMarkers_subset lang.listMarker_mem

theorem optionalMarker_mem_markers (lang : Language) :
    lang.lexicon.optionalMarker ∈ lang.lexicon.markers :=
  lang.lexicon.optionalMarkers_subset lang.optionalMarker_mem

theorem listOf_eq_enclose (lang : Language) (name : Text) :
    lang.listOf name =
      lang.lexicon.brackets.enclose lang.lexicon.listMarker (lang.lexicon.box name) :=
  lang.legible.restorable.generic_marker lang.listMarker_mem_markers _

theorem optionalOf_eq_enclose (lang : Language) (name : Text) :
    lang.optionalOf name =
      lang.lexicon.brackets.enclose lang.lexicon.optionalMarker (lang.lexicon.box name) :=
  lang.legible.restorable.generic_marker lang.optionalMarker_mem_markers _

/-- A list has nothing left to box. -/
theorem box_listOf (lang : Language) (name : Text) :
    lang.lexicon.box (lang.listOf name) = lang.listOf name := by
  apply lang.legible.box_of_not_primitive
  rw [lang.listOf_eq_enclose]
  exact lang.legible.enclose_not_primitive _ _

theorem box_optionalOf (lang : Language) (name : Text) :
    lang.lexicon.box (lang.optionalOf name) = lang.optionalOf name := by
  apply lang.legible.box_of_not_primitive
  rw [lang.optionalOf_eq_enclose]
  exact lang.legible.enclose_not_primitive _ _

theorem balanced_box (lang : Language) {name : Text}
    (hb : lang.lexicon.brackets.balanced name = true) :
    lang.lexicon.brackets.balanced (lang.lexicon.box name) = true := by
  rcases lang.legible.box_cases name with he | ⟨-, hfree⟩
  · rw [he]
    exact hb
  · exact Brackets.balanced_of_unbracketed hfree

theorem balanced_of_balanced_box (lang : Language) {name : Text}
    (hb : lang.lexicon.brackets.balanced (lang.lexicon.box name) = true) :
    lang.lexicon.brackets.balanced name = true := by
  by_cases hp : name ∈ lang.lexicon.primitives
  · exact Brackets.balanced_of_unbracketed (lang.legible.unbracketed_primitive hp)
  · rwa [lang.legible.box_of_not_primitive hp] at hb

theorem balanced_listOf (lang : Language) {name : Text}
    (hb : lang.lexicon.brackets.balanced name = true) :
    lang.lexicon.brackets.balanced (lang.listOf name) = true := by
  rw [lang.listOf_eq_enclose]
  exact Brackets.balanced_enclose lang.legible.paired
    (lang.legible.unbracketed_marker lang.listMarker_mem_markers) (lang.balanced_box hb)

theorem balanced_optionalOf (lang : Language) {name : Text}
    (hb : lang.lexicon.brackets.balanced name = true) :
    lang.lexicon.brackets.balanced (lang.optionalOf name) = true := by
  rw [lang.optionalOf_eq_enclose]
  exact Brackets.balanced_enclose lang.legible.paired
    (lang.legible.unbracketed_marker lang.optionalMarker_mem_markers) (lang.balanced_box hb)

theorem parse_listOf (lang : Language) {name : Text}
    (hb : lang.lexicon.brackets.balanced name = true) :
    lang.parse (lang.listOf name) = .list (lang.parse (lang.lexicon.box name)) none := by
  rw [parse, lang.listOf_eq_enclose,
    lang.legible.parse_list lang.listMarker_mem (lang.balanced_box hb)]
  exact congrArg _ (if_pos rfl)

theorem parse_optionalOf (lang : Language) {name : Text}
    (hb : lang.lexicon.brackets.balanced name = true) :
    lang.parse (lang.optionalOf name) = .optional (lang.parse (lang.lexicon.box name)) none := by
  rw [parse, lang.optionalOf_eq_enclose,
    lang.legible.parse_optional lang.optionalMarker_mem (lang.balanced_box hb)]
  exact congrArg _ (if_pos rfl)

/-- Also with an unbalanced name in it. -/
theorem isList_parse_optionalOf (lang : Language) (name : Text) :
    (lang.parse (lang.optionalOf name)).isList = false := by
  rw [parse, lang.optionalOf_eq_enclose, lang.legible.parse_optionalMarker lang.optionalMarker_mem]
  split
  · rfl
  · split
    · rfl
    · rfl

theorem box_eq_renderArgument {lang : Language} {name : Text}
    (hname : lang.render (lang.parse name) = name) :
    lang.lexicon.box name = (lang.parse name).renderArgument lang.lexicon := by
  calc lang.lexicon.box name
      = lang.lexicon.box (lang.render (lang.parse name)) := by rw [hname]
    _ = _ := lang.legible.box_render (lang.legible.wellFormed_parse name)

end TargetTypes.Language
