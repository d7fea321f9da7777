import TargetTypes.Text

/-!
# Templates

A template is a text with slots: each `%s` in it stands for the argument. Slots cannot
overlap, so filling reads from left to right.

    a slot is `%s` somewhere in the text                                         (hasSlot_iff)
-/

namespace TargetTypes.Text

/-! ## Algorithm -/

def hasSlot : Text → Bool
  | .scalar '%' :: .scalar 's' :: _ => true
  | _ :: rest => hasSlot rest
  | [] => false

/-- Puts the argument into every slot. -/
def fill : (template argument : Text) → Text
  | .scalar '%' :: .scalar 's' :: rest, argument => argument ++ fill rest argument
  | c :: rest, argument => c :: fill rest argument
  | [], _ => []

/-! ## Lemmas -/

theorem hasSlot_iff {template : Text} : hasSlot template = true ↔ ("%s" : Text) <:+: template := by
  fun_induction hasSlot template with
  | case1 rest =>
    simp only [true_iff]
    exact ⟨[], rest, rfl⟩
  | case2 c rest hslot ih =>
    rw [ih, List.infix_cons_iff]
    constructor
    · exact Or.inr
    · rintro (⟨tail, htail⟩ | h)
      · have hslotted : .scalar '%' :: .scalar 's' :: tail = c :: rest := htail
        obtain ⟨rfl, rfl⟩ := List.cons.inj hslotted
        exact (hslot tail rfl rfl).elim
      · exact h
  | case3 => exact iff_of_false Bool.false_ne_true (by decide)

/-- Filling adds the code points of the argument and takes none that no slot has. -/
theorem mem_fill {c : CodePoint} (hpercent : c ≠ '%') (hs : c ≠ 's') (template argument : Text) :
    c ∈ fill template argument ↔ c ∈ template ∨ (hasSlot template = true ∧ c ∈ argument) := by
  fun_induction fill template argument with
  | case1 argument rest ih =>
    simp only [List.mem_append, List.mem_cons, hpercent, hs, false_or, hasSlot, true_and, ih]
    constructor
    · rintro (ha | hr | ⟨-, ha⟩)
      · exact Or.inr ha
      · exact Or.inl hr
      · exact Or.inr ha
    · rintro (hr | ha)
      · exact Or.inr (Or.inl hr)
      · exact Or.inl ha
  | case2 argument d rest hslot ih =>
    rw [List.mem_cons, List.mem_cons, ih, hasSlot, or_assoc]
    exact hslot
  | case3 => simp [hasSlot]

end TargetTypes.Text
