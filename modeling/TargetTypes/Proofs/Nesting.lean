import TargetTypes.Lexicon
import TargetTypes.Proofs.Balance

/-!
# Nesting

How many brackets are open, by counting. A text is balanced where the count never falls below
zero and comes back to it. So a bracketed name has an argument exactly where the bracket opened
behind the outer name stays open up to the last character, which closes it; a name that closes it
earlier, as `Seq[A] => Seq[B]` does, has none.

    reading on with some brackets open is counting from there     (balancedFrom_iff_nestedFrom)
    brackets around a text stay open over just the balanced ones          (spans_iff_balanced)
    a name has just the argument that its first bracket spans   (argument?_eq_some_iff_spans)
-/

namespace TargetTypes.Brackets

/-- Opening brackets less closing brackets. -/
def height (b : Brackets) (text : Text) : Int :=
  text.countP (fun c => [c] = b.opening) - text.countP (fun c => [c] = b.closing)

/-- With `level` brackets open before the text, none is closed that is not open, and none is left
open. -/
structure NestedFrom (b : Brackets) (level : Int) (text : Text) : Prop where
  nonneg : ∀ front, front <+: text → 0 ≤ level + b.height front
  closed : level + b.height text = 0

/-- A bracket is open all the way through the text, and the last character closes it. -/
structure Spans (b : Brackets) (text : Text) : Prop where
  opened : ∀ front, front <+: text → front ≠ [] → front ≠ text → 1 ≤ b.height front
  closed : b.height text = 0

/-! ## Counting -/

@[simp] theorem height_nil (b : Brackets) : b.height [] = 0 := rfl

theorem height_append (b : Brackets) (x y : Text) :
    b.height (x ++ y) = b.height x + b.height y := by
  simp only [height, List.countP_append]
  omega

theorem height_of_unbracketed {b : Brackets} {text : Text} (h : b.Unbracketed text) :
    b.height text = 0 := by
  have hopening : text.countP (fun c => [c] = b.opening) = 0 := by
    rw [List.countP_eq_zero]
    intro c hc
    simpa using (h c hc).1
  have hclosing : text.countP (fun c => [c] = b.closing) = 0 := by
    rw [List.countP_eq_zero]
    intro c hc
    simpa using (h c hc).2
  rw [height, hopening, hclosing]
  rfl

namespace Paired

variable {b : Brackets} (hb : b.Paired)

include hb

theorem height_opening : b.height b.opening = 1 := by
  obtain ⟨o, c, ho, hc, hne⟩ := hb.chars
  simp [height, ho, hc, hne]

theorem height_closing : b.height b.closing = -1 := by
  obtain ⟨o, c, ho, hc, hne⟩ := hb.chars
  simp [height, ho, hc, hne.symm]

theorem height_span (inner : Text) : b.height (b.opening ++ inner ++ b.closing) = b.height inner := by
  rw [height_append, height_append, hb.height_opening, hb.height_closing]
  omega

end Paired

/-! ## Balance by counting -/

theorem nestedFrom_nil (b : Brackets) (level : Int) : b.NestedFrom level [] ↔ level = 0 := by
  constructor
  · intro h
    simpa using h.closed
  · rintro rfl
    refine ⟨fun front hfront => ?_, by simp⟩
    rw [List.prefix_nil.mp hfront]
    simp

/-- The first character is counted, and the rest is read from there. -/
theorem nestedFrom_cons (b : Brackets) (level : Int) (c : CodePoint) (rest : Text) :
    b.NestedFrom level (c :: rest) ↔ 0 ≤ level ∧ b.NestedFrom (level + b.height [c]) rest := by
  have hcons (front : Text) : b.height (c :: front) = b.height [c] + b.height front :=
    b.height_append [c] front
  constructor
  · intro h
    refine ⟨?_, fun front hfront => ?_, ?_⟩
    · simpa using h.nonneg [] List.nil_prefix
    · have := h.nonneg (c :: front) (List.cons_prefix_cons.mpr ⟨rfl, hfront⟩)
      rw [hcons] at this
      omega
    · have := h.closed
      rw [hcons] at this
      omega
  · rintro ⟨hlevel, h⟩
    refine ⟨fun front hfront => ?_, ?_⟩
    · rcases List.prefix_cons_iff.mp hfront with rfl | ⟨start, rfl, hstart⟩
      · simpa using hlevel
      · have := h.nonneg start hstart
        rw [hcons]
        omega
    · have := h.closed
      rw [hcons]
      omega

theorem balancedFrom_iff_nestedFrom {b : Brackets} (hb : b.Paired) (depth : Nat) (text : Text) :
    b.balancedFrom depth text = true ↔ b.NestedFrom depth text := by
  induction text generalizing depth with
  | nil =>
    rw [nestedFrom_nil, balancedFrom, beq_iff_eq]
    omega
  | cons c rest ih =>
    rw [nestedFrom_cons, balancedFrom]
    have hdepth : (0 : Int) ≤ depth := Int.natCast_nonneg depth
    by_cases ho : [c] = b.opening
    · rw [if_pos ho, ih, ho, hb.height_opening]
      push_cast
      exact (and_iff_right hdepth).symm
    · by_cases hc : [c] = b.closing
      · rw [if_neg ho, if_pos hc, hc, hb.height_closing, Bool.and_eq_true, bne_iff_ne, ih]
        cases depth with
        | zero =>
          -- one bracket too many is closed here
          constructor
          · exact fun h => absurd rfl h.1
          · rintro ⟨-, h⟩
            simpa using h.nonneg [] List.nil_prefix
        | succ depth =>
          have hone : ((depth + 1 : Nat) : Int) + -1 = ((depth + 1 - 1 : Nat) : Int) := by omega
          rw [hone]
          exact and_congr_left fun _ => ⟨fun _ => hdepth, fun _ => Nat.succ_ne_zero depth⟩
      · have hzero : b.height [c] = 0 := by
          apply height_of_unbracketed
          intro x hx
          rw [List.mem_singleton.mp hx]
          exact ⟨ho, hc⟩
        rw [if_neg ho, if_neg hc, ih, hzero, Int.add_zero]
        exact (and_iff_right hdepth).symm

theorem balanced_iff_nested {b : Brackets} (hb : b.Paired) (text : Text) :
    b.balanced text = true ↔ b.NestedFrom 0 text :=
  balancedFrom_iff_nestedFrom hb 0 text

/-! ## The bracket behind the outer name -/

/-- What a text in brackets begins with, before it ends: the opening one and a beginning of it. -/
theorem proper_prefix_span {o c : CodePoint} {inner front : Text} (hfront : front <+: o :: (inner ++ [c]))
    (hne : front ≠ []) (hproper : front ≠ o :: (inner ++ [c])) :
    ∃ start, start <+: inner ∧ front = o :: start := by
  rcases List.prefix_cons_iff.mp hfront with rfl | ⟨start, rfl, hstart⟩
  · exact absurd rfl hne
  · rcases List.prefix_concat_iff.mp hstart with rfl | hstart
    · exact absurd rfl hproper
    · exact ⟨start, hstart, rfl⟩

theorem spans_iff_balanced {b : Brackets} (hb : b.Paired) (inner : Text) :
    b.Spans (b.opening ++ inner ++ b.closing) ↔ b.balanced inner = true := by
  obtain ⟨o, c, ho, hc, -⟩ := hb.chars
  have hopen (start : Text) : b.height (o :: start) = 1 + b.height start := by
    rw [← hb.height_opening, ho]
    exact b.height_append [o] start
  have htext : b.opening ++ inner ++ b.closing = o :: (inner ++ [c]) := by
    rw [ho, hc]
    rfl
  have hlevel : b.height (o :: (inner ++ [c])) = b.height inner := by
    rw [← htext]
    exact hb.height_span inner
  rw [balanced_iff_nested hb, htext]
  constructor
  · intro h
    refine ⟨fun start hstart => ?_, ?_⟩
    · have hfront : o :: start <+: o :: (inner ++ [c]) :=
        List.cons_prefix_cons.mpr ⟨rfl, hstart.trans (List.prefix_append _ _)⟩
      have hproper : o :: start ≠ o :: (inner ++ [c]) := by
        intro he
        have := congrArg List.length he
        have hle := hstart.length_le
        simp only [List.length_cons, List.length_append, List.length_nil] at this
        omega
      have := h.opened _ hfront (List.cons_ne_nil _ _) hproper
      rw [hopen] at this
      omega
    · have := h.closed
      rw [hlevel] at this
      omega
  · intro h
    refine ⟨fun front hfront hne hproper => ?_, ?_⟩
    · obtain ⟨start, hstart, rfl⟩ := proper_prefix_span hfront hne hproper
      have := h.nonneg start hstart
      rw [hopen]
      omega
    · have := h.closed
      rw [hlevel]
      omega

theorem argument?_eq_some_iff_enclose {b : Brackets} (hb : b.Paired) {outer name inner : Text} :
    b.argument? outer name = some inner ↔
      name = b.enclose outer inner ∧ b.balanced inner = true := by
  constructor
  · intro h
    exact ⟨eq_enclose_of_argument? h (apart_of_paired hb outer), balanced_of_argument? h⟩
  · rintro ⟨rfl, h⟩
    exact b.argument?_enclose outer inner h

/-- Where the bracket behind the outer name is closed before the end, it does not span the name. -/
theorem argument?_of_closed_early {b : Brackets} (hb : b.Paired) {outer first rest : Text}
    (hrest : rest ≠ []) (hfirst : b.Spans (b.opening ++ first ++ b.closing)) :
    b.argument? outer (b.enclose outer first ++ rest) = none := by
  cases h : b.argument? outer (b.enclose outer first ++ rest) with
  | none => rfl
  | some inner =>
    obtain ⟨hname, hinner⟩ := (argument?_eq_some_iff_enclose hb).mp h
    have htail : b.opening ++ first ++ b.closing ++ rest = b.opening ++ inner ++ b.closing := by
      have : outer ++ (b.opening ++ first ++ b.closing ++ rest) =
          outer ++ (b.opening ++ inner ++ b.closing) := by
        simpa [enclose] using hname
      exact List.append_cancel_left this
    have hspan := (spans_iff_balanced hb inner).mpr hinner
    rw [← htail] at hspan
    have hne : b.opening ++ first ++ b.closing ≠ [] := by
      intro he
      have := congrArg List.length he
      simp only [List.length_append, hb.opening_length, List.length_nil] at this
      omega
    have hproper : b.opening ++ first ++ b.closing ≠ b.opening ++ first ++ b.closing ++ rest :=
      fun he => hrest (List.append_right_eq_self.mp he.symm)
    have := hspan.opened _ (List.prefix_append _ rest) hne hproper
    have := hfirst.closed
    omega

/-- For brackets of one character each: a name has an argument if and only if it is the outer name
with that argument in brackets, and the first of these brackets is open, by count, up to the last
character and closed by it; in every other case it has none. So it has none where that bracket is
closed earlier; and what a generic without a slot is written with is its argument if balanced. -/
theorem argument?_eq_some_iff_spans {b : Brackets} (hb : b.Paired) (outer name : Text) :
    (∀ inner, b.argument? outer name = some inner ↔
      name = outer ++ b.opening ++ inner ++ b.closing ∧
        b.Spans (b.opening ++ inner ++ b.closing)) ∧
    ((¬ ∃ inner, name = outer ++ b.opening ++ inner ++ b.closing ∧
        b.Spans (b.opening ++ inner ++ b.closing)) → b.argument? outer name = none) ∧
    (∀ first rest, rest ≠ [] → b.Spans (b.opening ++ first ++ b.closing) →
      b.argument? outer (outer ++ b.opening ++ first ++ b.closing ++ rest) = none) ∧
    ∀ lex : Lexicon, lex.brackets = b → ¬ ("%s" : Text) <:+: outer →
      ∀ x, b.balanced x = true → b.argument? outer (lex.generic outer x) = some x := by
  have hiff (inner : Text) : b.argument? outer name = some inner ↔
      name = outer ++ b.opening ++ inner ++ b.closing ∧
        b.Spans (b.opening ++ inner ++ b.closing) := by
    rw [argument?_eq_some_iff_enclose hb, spans_iff_balanced hb, enclose]
  refine ⟨hiff, fun hnone => ?_, fun first rest hrest hfirst => ?_, ?_⟩
  · cases h : b.argument? outer name with
    | none => rfl
    | some inner => exact absurd ⟨inner, (hiff inner).mp h⟩ hnone
  · exact argument?_of_closed_early hb hrest hfirst
  · rintro lex rfl hslot x hx
    have hplain : Text.hasSlot outer = false := by
      rw [Bool.eq_false_iff, Ne, Text.hasSlot_iff]
      exact hslot
    rw [lex.generic_of_not_hasSlot x hplain]
    exact lex.brackets.argument?_enclose outer x hx

/-- The brackets of `Seq[A] => Seq[B]` are even, but the first one is closed behind `A`. -/
theorem argument?_arrow_between_lists :
    (⟨"[", "]"⟩ : Brackets).Paired ∧
      (⟨"[", "]"⟩ : Brackets).argument? "Seq" "Seq[Option[A]]" = some ("Option[A]" : Text) ∧
      (⟨"[", "]"⟩ : Brackets).argument? "Seq" "Seq[A] => Seq[B]" = none := by
  have hb : (⟨"[", "]"⟩ : Brackets).Paired := ⟨rfl, rfl, by decide⟩
  have hnested := (spans_iff_balanced hb "Option[A]").mpr (by decide)
  have hletter := (spans_iff_balanced hb "A").mpr (by decide)
  refine ⟨hb, ?_, ?_⟩
  · exact ((argument?_eq_some_iff_spans hb "Seq" "Seq[Option[A]]").1 "Option[A]").mpr
      ⟨rfl, hnested⟩
  · exact (argument?_eq_some_iff_spans hb "Seq" "Seq[A] => Seq[B]").2.2.1 "A" " => Seq[B]"
      (by decide) hletter

end TargetTypes.Brackets
