import TargetTypes.Text.CodePoint

/-!
# Text

A text is a list of code points. Prefix tests, order and bracket scanning go code point by code
point, and a string literal stands for its list wherever a text is expected. A text that a file
can hold is plain: it is a list of characters.

    a text of characters is plain                                                (plain?_text)
    a plain text is the text of its characters                         (plain?_eq_some_iff)
-/

namespace TargetTypes

abbrev Text := List CodePoint

/-- What a file can hold, and what is read from it. -/
abbrev Plain := List Char

def Plain.text (plain : Plain) : Text := plain.map CodePoint.scalar

instance : Coe String Plain := ⟨String.toList⟩

theorem Plain.text_inj {a b : Plain} : a.text = b.text ↔ a = b :=
  List.map_inj_right fun _ _ h => CodePoint.scalar.inj h

namespace Text

/-! ## Algorithm -/

def ofString (s : String) : Text := Plain.text s.toList

/-- The characters of a text without surrogates. -/
def plain? (text : Text) : Option Plain := text.mapM CodePoint.scalar?

/-- Order by code point, a proper beginning first. -/
def le : Text → Text → Bool
  | [], _ => true
  | _ :: _, [] => false
  | a :: as, b :: bs => if a = b then le as bs else a.toNat < b.toNat

/-- The parts in turn, the separator between neighbours. -/
def joined (separator : Text) : List Text → Text
  | [] => []
  | [part] => part
  | part :: rest => part ++ separator ++ joined separator rest

/-- A number in decimal, without leading zeros. -/
def ofNat (n : Nat) : Text := Plain.text (Nat.toDigits 10 n)

end Text

instance : Coe String Text := ⟨Text.ofString⟩

namespace Text

/-- A negative number takes a minus sign. -/
def ofInt : Int → Text
  | .ofNat n => ofNat n
  | .negSucc n => "-" ++ ofNat (n + 1)

/-! ## Lemmas -/

theorem plain?_scalar_cons (c : Char) (rest : Text) :
    plain? (.scalar c :: rest) = (plain? rest).map (c :: ·) := by
  unfold plain?
  rw [List.mapM_cons]
  cases rest.mapM CodePoint.scalar? <;> rfl

theorem plain?_surrogate_cons (offset : Fin 0x800) (rest : Text) :
    plain? (.surrogate offset :: rest) = none := by
  unfold plain?
  rw [List.mapM_cons]
  rfl

theorem plain?_text (plain : Plain) : plain.text.plain? = some plain := by
  induction plain with
  | nil => rfl
  | cons c rest ih =>
    show plain? (.scalar c :: Plain.text rest) = _
    rw [plain?_scalar_cons, ih]
    rfl

theorem plain?_eq_some_iff {text : Text} {plain : Plain} :
    plain? text = some plain ↔ text = plain.text := by
  constructor
  · intro h
    induction text generalizing plain with
    | nil =>
      cases h
      rfl
    | cons c rest ih =>
      cases c with
      | surrogate offset =>
        rw [plain?_surrogate_cons] at h
        cases h
      | scalar c =>
        rw [plain?_scalar_cons] at h
        obtain ⟨more, hmore, rfl⟩ := Option.map_eq_some_iff.mp h
        rw [ih hmore]
        rfl
  · rintro rfl
    exact plain?_text plain

theorem le_refl (a : Text) : le a a = true := by
  induction a with
  | nil => rfl
  | cons c r ih => simp [le, ih]

theorem le_total (a b : Text) : (le a b || le b a) = true := by
  induction a generalizing b with
  | nil => simp [le]
  | cons c r ih =>
    cases b with
    | nil => simp [le]
    | cons d s =>
      by_cases h : c = d
      · simp only [le, h, if_true]
        exact ih s
      · have hn : c.toNat ≠ d.toNat := fun e => h (CodePoint.toNat_inj.mp e)
        have hd : ¬ d = c := fun e => h e.symm
        simp only [le, h, hd, if_false]
        simp only [Bool.or_eq_true, decide_eq_true_eq]
        omega

/-- Texts are the same up to their first stop, and so is what follows it. -/
theorem eq_of_append_stop {p : CodePoint → Prop} {a b r s : Text} {c d : CodePoint}
    (ha : ∀ x ∈ a, ¬ p x) (hb : ∀ x ∈ b, ¬ p x) (hc : p c) (hd : p d)
    (h : a ++ c :: r = b ++ d :: s) : a = b ∧ c = d ∧ r = s := by
  induction a generalizing b with
  | nil =>
    cases b with
    | nil => exact ⟨rfl, List.cons.inj h⟩
    | cons y b =>
      obtain ⟨rfl, -⟩ := List.cons.inj h
      exact absurd hc (hb c List.mem_cons_self)
  | cons x a ih =>
    cases b with
    | nil =>
      obtain ⟨rfl, -⟩ := List.cons.inj h
      exact absurd hd (ha x List.mem_cons_self)
    | cons y b =>
      obtain ⟨rfl, hrest⟩ := List.cons.inj h
      obtain ⟨rfl, hstop⟩ := ih (fun z hz => ha z (List.mem_cons_of_mem _ hz))
        (fun z hz => hb z (List.mem_cons_of_mem _ hz)) hrest
      exact ⟨rfl, hstop⟩

end Text

end TargetTypes
