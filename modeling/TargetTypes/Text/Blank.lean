import TargetTypes.Text
import TargetTypes.Text.CharSet

/-!
# Blank text

White space is what Unicode calls so, with the four information separators; a space without
width is none. A text is blank if it has no other characters. A blank setting counts as none.

    a setting in force is not blank                                      (inForce?_eq_some_iff)
-/

namespace TargetTypes.Text

/-! ## Algorithm -/

def blankBounds : List Nat :=
  [9, 14, 28, 33, 0x85, 0x86, 0xA0, 0xA1, 0x1680, 0x1681,
   0x2000, 0x200B, 0x2028, 0x202A, 0x202F, 0x2030, 0x205F, 0x2060, 0x3000, 0x3001]

def isBlankChar (c : CodePoint) : Bool := CharSet.within blankBounds c.toNat

def isBlank (text : Text) : Bool := text.all isBlankChar

/-- A setting, unless it is missing or blank. -/
def inForce? : Option Text → Option Text
  | some text => if isBlank text then none else some text
  | none => none

/-! ## Lemmas -/

theorem inForce?_eq_some_iff {setting : Option Text} {text : Text} :
    inForce? setting = some text ↔ setting = some text ∧ isBlank text = false := by
  cases setting with
  | none => simp [inForce?]
  | some t =>
    cases h : isBlank t with
    | true =>
      simp only [inForce?, h, if_true]
      refine ⟨fun e => by simp at e, ?_⟩
      rintro ⟨⟨⟩, e⟩
      simp [h] at e
    | false =>
      simp only [inForce?, h, Bool.false_eq_true, if_false]
      refine ⟨?_, fun e => e.1⟩
      rintro ⟨⟩
      exact ⟨rfl, h⟩

theorem inForce?_of_isBlank {text : Text} (h : isBlank text = true) :
    inForce? (some text) = none := by
  simp [inForce?, h]

end TargetTypes.Text
