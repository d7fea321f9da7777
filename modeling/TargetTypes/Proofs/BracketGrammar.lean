import TargetTypes.Proofs.Balance

/-!
# The grammar of balance

Balance is decided by counting. Where the brackets are two different characters, the balanced texts
are those of a grammar: the empty text, another character with a text of the grammar behind it, and
brackets around one with one behind them. A bracket that is not one character matches none, and of
two equal brackets only the first is seen; what is left then is that the one bracket that is seen
does not occur.

    counting from some depth closes just so many brackets      (derivesOpen_of_balancedFrom)
    texts of the grammar are balanced                                    (balanced_of_derives)
    balance is the grammar, for brackets of any kind                (balanced_iff_grammatical)
-/

namespace TargetTypes.Brackets

/-! ## Grammar -/

/-- The texts of the grammar for two different bracket characters. -/
inductive Derives (opening closing : CodePoint) : Text → Prop where
  | empty : Derives opening closing []
  | other {c : CodePoint} {rest : Text} : c ≠ opening → c ≠ closing →
      Derives opening closing rest → Derives opening closing (c :: rest)
  | nested {inner rest : Text} : Derives opening closing inner → Derives opening closing rest →
      Derives opening closing (opening :: inner ++ closing :: rest)

/-- What is left of a text with `depth` brackets open: for each of them a text of the grammar and the
bracket that closes it, and one more text of the grammar. -/
inductive DerivesOpen (opening closing : CodePoint) : (depth : Nat) → Text → Prop where
  | last {text : Text} : Derives opening closing text → DerivesOpen opening closing 0 text
  | closed {depth : Nat} {front back : Text} : Derives opening closing front →
      DerivesOpen opening closing depth back →
      DerivesOpen opening closing (depth + 1) (front ++ closing :: back)

/-- What balance comes to. A bracket that is not one character is not seen, and where both are the
same, only the opening one is. -/
def Grammatical (b : Brackets) (text : Text) : Prop :=
  match b.opening, b.closing with
  | [o], [c] => if o = c then o ∉ text else Derives o c text
  | [o], _ => o ∉ text
  | _, [c] => c ∉ text
  | _, _ => True

/-! ## Two different characters -/

namespace DerivesOpen

variable {opening closing : CodePoint} {depth : Nat} {text : Text}

theorem other {c : CodePoint} (ho : c ≠ opening) (hc : c ≠ closing)
    (h : DerivesOpen opening closing depth text) :
    DerivesOpen opening closing depth (c :: text) := by
  cases h with
  | last h => exact .last (.other ho hc h)
  | closed hfront hback => exact .closed (.other ho hc hfront) hback

/-- The first bracket that is closed is the one opened here. -/
theorem opened (h : DerivesOpen opening closing (depth + 1) text) :
    DerivesOpen opening closing depth (opening :: text) := by
  cases h with
  | closed hinner hrest =>
    cases hrest with
    | last hrest => exact .last (.nested hinner hrest)
    | closed hfront hback => simpa using closed (.nested hinner hfront) hback

end DerivesOpen

section

variable {b : Brackets} {o c : CodePoint} (ho : b.opening = [o]) (hc : b.closing = [c])

include ho hc

theorem derivesOpen_of_balancedFrom {depth : Nat} {text : Text}
    (h : b.balancedFrom depth text = true) : DerivesOpen o c depth text := by
  induction text generalizing depth with
  | nil =>
    obtain rfl : depth = 0 := by simpa [balancedFrom] using h
    exact .last .empty
  | cons x rest ih =>
    simp only [balancedFrom, ho, hc, List.singleton_inj] at h
    split at h
    · next hx =>
      subst hx
      exact (ih h).opened
    · next hx =>
      split at h
      · next hx' =>
        subst hx'
        rw [Bool.and_eq_true, bne_iff_ne] at h
        obtain ⟨n, rfl⟩ := Nat.exists_eq_succ_of_ne_zero h.1
        exact .closed .empty (ih h.2)
      · next hx' => exact (ih h).other hx hx'

theorem balanced_of_derives (hne : o ≠ c) {text : Text} (h : Derives o c text) :
    b.balanced text = true := by
  have hb : b.Paired := ⟨by rw [ho]; rfl, by rw [hc]; rfl, by simpa [ho, hc] using hne⟩
  induction h with
  | empty => rfl
  | @other x rest hxo hxc _ ih =>
    have hx : b.Unbracketed [x] := by
      intro y hy
      obtain rfl := List.mem_singleton.mp hy
      simpa [ho, hc] using And.intro hxo hxc
    exact (balanced_unbracketed_append hx rest).trans ih
  | @nested inner rest _ _ hinner hrest =>
    have hform : o :: inner ++ c :: rest = b.enclose [] inner ++ rest := by
      simp [enclose, ho, hc]
    rw [hform]
    exact b.balanced_append (balanced_enclose hb (by simp [Unbracketed]) hinner) hrest

theorem balanced_iff_derives (hne : o ≠ c) (text : Text) :
    b.balanced text = true ↔ Derives o c text := by
  constructor
  · intro h
    cases derivesOpen_of_balancedFrom ho hc h with
    | last h => exact h
  · exact balanced_of_derives ho hc hne

end

/-! ## One bracket that is seen, or none -/

theorem forall_mem_ne_iff (x : CodePoint) (text : Text) : (∀ c ∈ text, [c] ≠ [x]) ↔ x ∉ text := by
  simp only [Ne, List.singleton_inj]
  exact ⟨fun h hx => h x hx rfl, fun h c hc hx => h (hx ▸ hc)⟩

/-- Without a closing bracket every open one stays open. -/
theorem balancedFrom_of_never_closed {b : Brackets} (h : ∀ c, [c] = b.closing → [c] = b.opening)
    (depth : Nat) (text : Text) :
    b.balancedFrom depth text = true ↔ depth = 0 ∧ b.Unopened text := by
  induction text generalizing depth with
  | nil => simp [balancedFrom, Unopened]
  | cons c rest ih =>
    by_cases ho : [c] = b.opening
    · rw [balancedFrom, if_pos ho, ih]
      simp [Unopened, ho]
    · have hc : [c] ≠ b.closing := fun hc => ho (h c hc)
      rw [balancedFrom, if_neg ho, if_neg hc, ih]
      simp [Unopened, ho]

theorem balanced_of_never_closed {b : Brackets} (h : ∀ c, [c] = b.closing → [c] = b.opening)
    (text : Text) : b.balanced text = true ↔ b.Unopened text :=
  (balancedFrom_of_never_closed h 0 text).trans (and_iff_right rfl)

/-- Without an opening bracket nothing is there to close. -/
theorem balanced_of_never_opened {b : Brackets} (h : ∀ c, [c] ≠ b.opening) (text : Text) :
    b.balanced text = true ↔ ∀ c ∈ text, [c] ≠ b.closing := by
  unfold balanced
  induction text with
  | nil => simp [balancedFrom]
  | cons c rest ih =>
    rw [balancedFrom, if_neg (h c), List.forall_mem_cons]
    by_cases hc : [c] = b.closing
    · simp [hc]
    · rw [if_neg hc, ih]
      exact (and_iff_right hc).symm

/-- Whatever the brackets are, a text is balanced just if it is one of the grammar; or, where not
both of them are seen, if the bracket that is seen is not in it. -/
theorem balanced_iff_grammatical (b : Brackets) (text : Text) :
    b.balanced text = true ↔ b.Grammatical text := by
  have hunopened {o : CodePoint} (ho : b.opening = [o]) : b.Unopened text ↔ o ∉ text := by
    rw [Unopened, ho]
    exact forall_mem_ne_iff o text
  unfold Grammatical
  split
  · next o c ho hc =>
    split
    · next he =>
      subst he
      rw [balanced_of_never_closed fun x hx => hx.trans (hc.trans ho.symm), hunopened ho]
    · next hne => exact balanced_iff_derives ho hc hne text
  · next o _ ho hclosing =>
    rw [balanced_of_never_closed fun x hx => (hclosing x hx.symm).elim, hunopened ho]
  · next c hc hopening =>
    rw [balanced_of_never_opened fun x hx => hopening x hx.symm, hc]
    exact forall_mem_ne_iff c text
  · next hopening hclosing _ =>
    rw [balanced_of_never_opened fun x hx => hopening x hx.symm]
    exact iff_true_intro fun x _ hx => hclosing x hx.symm

end TargetTypes.Brackets
