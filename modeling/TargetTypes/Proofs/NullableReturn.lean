import Mathlib.Logic.Function.Iterate
import TargetTypes.Proofs.ListForm

/-!
# Nullable returns

Where no template applies, a nullable return is put into an optional, unless it is a collection or
an optional already. Given its own answer, the rule has to see the optional it has written. It does
so if what it wrapped is balanced: the brackets around an unbalanced name make no optional, and the
name is wrapped again.

    the rule leaves just collections and optionals alone         (nullableName_eq_self_iff)
    an optional of a name is one of these if the name is balanced    (spared_optionalOf_iff)
    the rule is done after one step for balanced names and collections  (returnType_twice_iff)
-/

namespace TargetTypes.Language

/-- Rule 2 leaves the name alone. -/
def Spared (lang : Language) (name : Text) : Prop :=
  lang.isCollection name = true ∨ lang.isOptional name = true

variable (lang : Language)

/-! ## Optionals that are seen -/

theorem balanced_of_isOptional {name : Text} (h : lang.isOptional name = true) :
    lang.lexicon.brackets.balanced name = true := by
  obtain ⟨element, marker, hm, hb, rfl⟩ := (lang.isOptional_iff name).mp h
  exact Brackets.balanced_enclose lang.legible.paired
    (lang.legible.unbracketed_marker (lang.lexicon.optionalMarkers_subset hm)) hb

theorem isOptional_optionalOf_iff (name : Text) :
    lang.isOptional (lang.optionalOf name) = true ↔
      lang.lexicon.brackets.balanced name = true := by
  constructor
  · rw [isOptional_iff, optionalOf_eq_enclose]
    rintro ⟨element, marker, hm, hb, hform⟩
    have hargument : lang.lexicon.brackets.argument? marker
        (lang.lexicon.brackets.enclose lang.lexicon.optionalMarker (lang.lexicon.box name)) =
          some element := by
      rw [hform]
      exact lang.lexicon.brackets.argument?_enclose marker element hb
    obtain ⟨-, rfl⟩ := lang.legible.eq_of_argument?_enclose lang.optionalMarker_mem_markers
      (lang.lexicon.optionalMarkers_subset hm) hargument
    exact lang.balanced_of_balanced_box hb
  · intro hb
    rw [isOptional, lang.parse_optionalOf hb]
    rfl

theorem isCollection_optionalOf (name : Text) : lang.isCollection (lang.optionalOf name) = false := by
  rw [Bool.eq_false_iff, Ne, isCollection_iff, not_or, ← isList_parse_iff,
    lang.isList_parse_optionalOf]
  refine ⟨Bool.false_ne_true, ?_⟩
  rintro ⟨start, hstart, hprefix⟩
  cases lang with
  | java => cases hstart
  | scala =>
    -- the list of Java does not begin like the optional
    obtain rfl := List.mem_singleton.mp hstart
    obtain ⟨rest, hrest⟩ := hprefix
    rw [optionalOf_scala] at hrest
    cases congrArg List.head? hrest

theorem spared_optionalOf_iff (name : Text) :
    lang.Spared (lang.optionalOf name) ↔ lang.lexicon.brackets.balanced name = true := by
  rw [Spared, isCollection_optionalOf, isOptional_optionalOf_iff]
  exact or_iff_right Bool.false_ne_true

theorem optionalOf_ne (name : Text) : lang.optionalOf name ≠ name := by
  intro he
  have hbox : lang.lexicon.box name = name := by
    have := lang.box_optionalOf name
    rwa [he] at this
  have hlt := Brackets.length_lt_enclose lang.legible.paired lang.lexicon.optionalMarker name
  rw [optionalOf_eq_enclose, hbox] at he
  rw [he] at hlt
  exact Nat.lt_irrefl _ hlt

/-! ## The rule on its own answer -/

section

variable {opts : Options} (hasked : opts.optionalReturns = true)

include hasked

theorem nullableName_cases (name : Text) :
    (lang.Spared name ∧ lang.nullableName opts false name = name) ∨
      (¬ lang.Spared name ∧ lang.nullableName opts false name = lang.optionalOf name) := by
  unfold Spared nullableName
  cases lang.isCollection name <;> cases lang.isOptional name <;> simp [hasked]

theorem nullableName_eq_self_iff (name : Text) :
    lang.nullableName opts false name = name ↔ lang.Spared name := by
  rcases lang.nullableName_cases hasked name with ⟨hspared, he⟩ | ⟨hnot, he⟩
  · exact iff_of_true he hspared
  · rw [he]
    exact iff_of_false (lang.optionalOf_ne name) hnot

theorem nullableName_twice_iff (name : Text) :
    lang.nullableName opts false (lang.nullableName opts false name) =
        lang.nullableName opts false name ↔
      lang.lexicon.brackets.balanced name = true ∨ lang.isCollection name = true := by
  rw [lang.nullableName_eq_self_iff hasked]
  rcases lang.nullableName_cases hasked name with ⟨hspared, he⟩ | ⟨hnot, he⟩
  · rw [he]
    refine iff_of_true hspared ?_
    rcases hspared with hcollection | hoptional
    · exact Or.inr hcollection
    · exact Or.inl (lang.balanced_of_isOptional hoptional)
  · have hcollection : ¬ lang.isCollection name = true := fun h => hnot (Or.inl h)
    rw [he, spared_optionalOf_iff, or_iff_left hcollection]

end

/-- Where options ask for optionals and no template applies, a nullable return is answered for its
own answer just as it is if and only if the name is balanced or a collection. So a balanced name is
wrapped once at most, however often it goes through the rules. -/
theorem returnType_twice_iff {opts : Options} {field : ReturnField} (operation : Text)
    (hmandatory : field.mandatory = false) (hasked : opts.optionalReturns = true)
    (hsubscription : Text.inForce? opts.subscriptionType = none)
    (hlist : Text.inForce? opts.returnListType = none)
    (hreturn : Text.inForce? opts.returnType = none) :
    (lang.returnType opts { field with name := lang.returnType opts field operation } operation =
        lang.returnType opts field operation ↔
      lang.lexicon.brackets.balanced field.name = true ∨ lang.isCollection field.name = true) ∧
    (lang.lexicon.brackets.balanced field.name = true → ∀ n,
      (fun name => lang.returnType opts { field with name := name } operation)^[n + 1] field.name =
        lang.returnType opts field operation) := by
  have hrule (name : Text) : lang.returnType opts { field with name := name } operation =
      lang.nullableName opts false name :=
    lang.returnType_of_nullable operation hmandatory hsubscription hlist hreturn
  have hfirst : lang.returnType opts field operation = lang.nullableName opts false field.name :=
    hrule field.name
  have htwice := lang.nullableName_twice_iff hasked field.name
  refine ⟨?_, fun hb n => ?_⟩
  · rw [hfirst, hrule, htwice]
  · simp only [hrule]
    rw [Function.iterate_succ_apply, Function.iterate_fixed (htwice.mpr (Or.inl hb))]

/-- A primitive is boxed and wrapped once; two brackets the wrong way round make a name that is
wrapped again. -/
theorem returnType_int_and_unbalanced :
    Language.java.returnType { optionalReturns := true } { name := "int" } "QUERY" =
        ("java.util.Optional<Integer>" : Text) ∧
      Language.java.returnType { optionalReturns := true } { name := "java.util.Optional<Integer>" }
        "QUERY" = ("java.util.Optional<Integer>" : Text) ∧
      Language.scala.returnType { optionalReturns := true } { name := "][" } "QUERY" =
        ("Option[][]" : Text) ∧
      Language.scala.returnType { optionalReturns := true } { name := "Option[][]" } "QUERY" ≠
        ("Option[][]" : Text) := by
  have hint : Language.java.returnType { optionalReturns := true } { name := "int" } "QUERY" =
      ("java.util.Optional<Integer>" : Text) := by decide +kernel
  have hodd : Language.scala.returnType { optionalReturns := true } { name := "][" } "QUERY" =
      ("Option[][]" : Text) := by decide +kernel
  have hsettled := (@returnType_twice_iff .java { optionalReturns := true } { name := "int" }
    "QUERY" rfl rfl rfl rfl rfl).1
  have hagain := (@returnType_twice_iff .scala { optionalReturns := true } { name := "][" }
    "QUERY" rfl rfl rfl rfl rfl).1
  rw [hint] at hsettled
  rw [hodd] at hagain
  exact ⟨hint, hsettled.mpr (by decide +kernel), hodd, mt hagain.mp (by decide +kernel)⟩

end TargetTypes.Language
