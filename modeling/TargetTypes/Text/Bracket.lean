import TargetTypes.Text

/-!
# Bracketed names

`outer[argument]`: a name, an opening bracket, an argument, a closing bracket. The brackets
are texts. Balance compares each single character with a whole bracket, so a bracket that is
not one character long never matches there; where both brackets are the same, it opens.

    balanced (x ++ y)                            for balanced x and y       (balanced_append)
    argument? outer (enclose outer x) = some x   for balanced x             (argument?_enclose)
    an argument is shorter than its name         unless the form is empty   (length_of_argument?)
-/

namespace TargetTypes

structure Brackets where
  opening : Text
  closing : Text
deriving DecidableEq, Repr

namespace Brackets

/-! ## Algorithm -/

/-- Reads on with `depth` brackets open: none may be left open, none may close too many. -/
def balancedFrom (b : Brackets) : Nat → Text → Bool
  | depth, [] => depth == 0
  | depth, c :: rest =>
    if [c] = b.opening then b.balancedFrom (depth + 1) rest
    else if [c] = b.closing then depth != 0 && b.balancedFrom (depth - 1) rest
    else b.balancedFrom depth rest

def balanced (b : Brackets) (text : Text) : Bool := b.balancedFrom 0 text

def enclose (b : Brackets) (outer argument : Text) : Text :=
  outer ++ b.opening ++ argument ++ b.closing

/-- What is left of a name between the opening and the closing part. The two may overlap in
a short name; nothing is left then. -/
def inside (b : Brackets) (outer name : Text) : Text :=
  (name.take (name.length - b.closing.length)).drop (outer ++ b.opening).length

/-- The argument of `outer[...]`, if the name has that form. -/
def argument? (b : Brackets) (outer name : Text) : Option Text :=
  if outer ++ b.opening <+: name ∧ b.closing <:+ name ∧ b.balanced (b.inside outer name) then
    some (b.inside outer name)
  else none

/-! ## Lemmas -/

theorem balancedFrom_append (b : Brackets) (x y : Text) (depth outside : Nat)
    (hx : b.balancedFrom depth x = true) :
    b.balancedFrom (depth + outside) (x ++ y) = b.balancedFrom outside y := by
  induction x generalizing depth with
  | nil =>
    have : depth = 0 := by simpa [balancedFrom] using hx
    subst this
    rw [Nat.zero_add, List.nil_append]
  | cons c r ih =>
    simp only [List.cons_append, balancedFrom] at hx ⊢
    by_cases ho : [c] = b.opening
    · rw [if_pos ho] at hx ⊢
      rw [Nat.add_right_comm]
      exact ih _ hx
    · rw [if_neg ho] at hx ⊢
      by_cases hc : [c] = b.closing
      · rw [if_pos hc] at hx ⊢
        simp only [Bool.and_eq_true, bne_iff_ne] at hx
        obtain ⟨hd, hx⟩ := hx
        have he : depth + outside - 1 = depth - 1 + outside := by omega
        have hne : (depth + outside != 0) = true := by rw [bne_iff_ne]; omega
        rw [he, hne, ih _ hx, Bool.true_and]
      · rw [if_neg hc] at hx ⊢
        exact ih _ hx

theorem balanced_append (b : Brackets) {x y : Text} (hx : b.balanced x = true)
    (hy : b.balanced y = true) : b.balanced (x ++ y) = true :=
  (b.balancedFrom_append x y 0 0 hx).trans hy

theorem length_enclose (b : Brackets) (outer argument : Text) :
    (b.enclose outer argument).length =
      outer.length + b.opening.length + argument.length + b.closing.length := by
  simp only [enclose, List.length_append]

theorem inside_enclose (b : Brackets) (outer argument : Text) :
    b.inside outer (b.enclose outer argument) = argument := by
  have hlen : (b.enclose outer argument).length - b.closing.length
      = (outer ++ b.opening ++ argument).length := by
    simp only [enclose, List.length_append]
    omega
  rw [inside, hlen, enclose, List.take_left, List.drop_left]

theorem argument?_eq_some_iff {b : Brackets} {outer name argument : Text} :
    b.argument? outer name = some argument ↔
      (outer ++ b.opening <+: name ∧ b.closing <:+ name ∧ b.balanced argument = true) ∧
        b.inside outer name = argument := by
  unfold argument?
  split
  next h =>
    rw [Option.some.injEq]
    exact ⟨fun e => ⟨e ▸ h, e⟩, fun e => e.2⟩
  next h =>
    refine ⟨fun e => by simp at e, fun e => absurd ?_ h⟩
    rw [e.2]
    exact e.1

theorem argument?_enclose (b : Brackets) (outer argument : Text)
    (h : b.balanced argument = true) :
    b.argument? outer (b.enclose outer argument) = some argument :=
  argument?_eq_some_iff.mpr
    ⟨⟨⟨argument ++ b.closing, by simp [enclose]⟩, ⟨outer ++ b.opening ++ argument, rfl⟩, h⟩,
      b.inside_enclose outer argument⟩

theorem length_of_argument? {b : Brackets} {outer name argument : Text}
    (h : b.argument? outer name = some argument) (hne : outer ++ b.opening ++ b.closing ≠ []) :
    argument.length < name.length := by
  obtain ⟨⟨hpre, hsuf, _⟩, rfl⟩ := argument?_eq_some_iff.mp h
  have h1 := hpre.length_le
  have h2 := hsuf.length_le
  have h3 : 0 < (outer ++ b.opening ++ b.closing).length := List.length_pos_iff.mpr hne
  simp only [List.length_append] at h1 h2 h3
  simp only [inside, List.length_drop, List.length_take, List.length_append]
  omega

end Brackets

end TargetTypes
