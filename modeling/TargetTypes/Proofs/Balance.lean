import TargetTypes.Text.Bracket

/-!
# Balance of longer names

What putting a name into brackets does to its balance, and when a bracketed name can be taken
apart and put together again. The ends of a short name may share characters, as in `L|` with
`|` for both brackets; `Apart` rules that out.

    name = enclose outer x        if x is its argument and its ends are apart  (eq_enclose_of_argument?)
    enclose outer x is balanced   if x is, and outer has no bracket in it         (balanced_enclose)
    outer is known from the name  if no opening bracket is in it                (eq_of_opened_prefix)
-/

namespace TargetTypes.Brackets

/-- No end of `front` is a beginning of `back`, so the two share no character of a name. -/
def Apart (front back : Text) : Prop :=
  ∀ piece, piece ≠ [] → piece <:+ front → ¬ piece <+: back

/-- Each bracket is one character, and the two differ. -/
structure Paired (b : Brackets) : Prop where
  opening_length : b.opening.length = 1
  closing_length : b.closing.length = 1
  opening_ne_closing : b.opening ≠ b.closing

/-- No character of the text counts for balance. -/
def Unbracketed (b : Brackets) (text : Text) : Prop :=
  ∀ c ∈ text, [c] ≠ b.opening ∧ [c] ≠ b.closing

instance (b : Brackets) (text : Text) : Decidable (b.Unbracketed text) :=
  List.decidableBAll (fun c => [c] ≠ b.opening ∧ [c] ≠ b.closing) text

/-- No character of the text opens. -/
def Unopened (b : Brackets) (text : Text) : Prop := ∀ c ∈ text, [c] ≠ b.opening

instance (b : Brackets) (text : Text) : Decidable (b.Unopened text) :=
  List.decidableBAll (fun c => [c] ≠ b.opening) text

theorem Unbracketed.unopened {b : Brackets} {text : Text} (h : b.Unbracketed text) :
    b.Unopened text := fun c hc => (h c hc).1

theorem Paired.chars {b : Brackets} (hb : b.Paired) :
    ∃ o c, b.opening = [o] ∧ b.closing = [c] ∧ o ≠ c := by
  obtain ⟨o, ho⟩ := List.length_eq_one_iff.mp hb.opening_length
  obtain ⟨c, hc⟩ := List.length_eq_one_iff.mp hb.closing_length
  refine ⟨o, c, ho, hc, ?_⟩
  rintro rfl
  exact hb.opening_ne_closing (ho.trans hc.symm)

/-! ## Taking names apart -/

theorem exists_between {front back name : Text} (hfront : front <+: name) (hback : back <:+ name)
    (h : Apart front back) : ∃ middle, name = front ++ middle ++ back := by
  obtain ⟨rest, hrest⟩ := hfront
  obtain ⟨start, hstart⟩ := hback
  rcases List.append_eq_append_iff.mp (hrest.trans hstart.symm) with
    ⟨middle, hm1, hm2⟩ | ⟨piece, hp1, hp2⟩
  · exact ⟨middle, by rw [← hrest, hm2, List.append_assoc]⟩
  · -- the two ends overlap in `piece`
    by_cases hne : piece = []
    · subst hne
      refine ⟨[], ?_⟩
      rw [List.append_nil, ← hrest, hp2, List.nil_append]
    · have hsuf : piece <:+ front := ⟨start, hp1.symm⟩
      have hpre : piece <+: back := ⟨rest, hp2.symm⟩
      exact absurd hpre (h piece hne hsuf)

theorem eq_enclose_of_argument? {b : Brackets} {outer name argument : Text}
    (h : b.argument? outer name = some argument) (hapart : Apart (outer ++ b.opening) b.closing) :
    name = b.enclose outer argument := by
  obtain ⟨⟨hpre, hsuf, _⟩, hinside⟩ := argument?_eq_some_iff.mp h
  obtain ⟨middle, hm⟩ := exists_between hpre hsuf hapart
  change name = b.enclose outer middle at hm
  rw [hm, inside_enclose] at hinside
  rw [hm, hinside]

theorem balanced_of_argument? {b : Brackets} {outer name argument : Text}
    (h : b.argument? outer name = some argument) : b.balanced argument = true :=
  (argument?_eq_some_iff.mp h).1.2.2

theorem apart_of_paired {b : Brackets} (hb : b.Paired) (outer : Text) :
    Apart (outer ++ b.opening) b.closing := by
  obtain ⟨o, c, ho, hc, hne⟩ := hb.chars
  intro piece hpiece hsuf hpre
  rw [hc] at hpre
  have hclosing : piece = [c] := by
    rcases List.prefix_cons_iff.mp hpre with rfl | ⟨t, rfl, ht⟩
    · exact absurd rfl hpiece
    · rw [List.prefix_nil.mp ht]
  rw [hclosing, ho] at hsuf
  have hlast : c = o := by
    obtain ⟨t, ht⟩ := hsuf
    exact (List.append_inj' ht rfl).2 |> List.singleton_inj.mp
  exact hne hlast.symm

/-- What stands before the first opening bracket of a name is all of the name's outer part. -/
theorem eq_of_opened_prefix {b : Brackets} (hb : b.opening.length = 1) {outer other name : Text}
    (houter : b.Unopened outer) (hother : b.Unopened other)
    (h : outer ++ b.opening <+: name) (h' : other ++ b.opening <+: name) : outer = other := by
  obtain ⟨o, ho⟩ := List.length_eq_one_iff.mp hb
  obtain ⟨rest, hrest⟩ := h
  obtain ⟨rest', hrest'⟩ := h'
  have hname : outer ++ o :: rest = other ++ o :: rest' := by
    simpa [ho] using hrest.trans hrest'.symm
  exact (Text.eq_of_append_stop (p := fun c => [c] = b.opening) houter hother ho.symm ho.symm
    hname).1

theorem length_lt_enclose {b : Brackets} (hb : b.Paired) (outer argument : Text) :
    argument.length < (b.enclose outer argument).length := by
  have := hb.opening_length
  rw [length_enclose]
  omega

theorem exists_opening_mem_enclose {b : Brackets} (hb : b.Paired) (outer argument : Text) :
    ∃ o ∈ b.enclose outer argument, [o] = b.opening := by
  obtain ⟨o, -, ho, -⟩ := hb.chars
  refine ⟨o, ?_, ho.symm⟩
  simp [enclose, ho]

theorem ne_enclose_of_unbracketed {b : Brackets} (hb : b.Paired) {name : Text}
    (hname : b.Unbracketed name) (outer argument : Text) : name ≠ b.enclose outer argument := by
  obtain ⟨o, hmem, ho⟩ := exists_opening_mem_enclose hb outer argument
  rintro rfl
  exact (hname o hmem).1 ho

/-! ## Balance -/

theorem balancedFrom_unbracketed_append {b : Brackets} {outer : Text} (houter : b.Unbracketed outer)
    (depth : Nat) (text : Text) :
    b.balancedFrom depth (outer ++ text) = b.balancedFrom depth text := by
  induction outer with
  | nil => rfl
  | cons c r ih =>
    have hc := houter c List.mem_cons_self
    simp only [List.cons_append, balancedFrom]
    rw [if_neg hc.1, if_neg hc.2]
    exact ih fun x hx => houter x (List.mem_cons_of_mem _ hx)

theorem balanced_unbracketed_append {b : Brackets} {outer : Text} (houter : b.Unbracketed outer)
    (text : Text) : b.balanced (outer ++ text) = b.balanced text :=
  balancedFrom_unbracketed_append houter 0 text

theorem balanced_of_unbracketed {b : Brackets} {text : Text} (h : b.Unbracketed text) :
    b.balanced text = true := by
  have := balanced_unbracketed_append h []
  rwa [List.append_nil] at this

/-- A closing bracket that comes first closes nothing. -/
theorem balanced_closed {b : Brackets} (hb : b.Paired) {front : Text}
    (hfront : b.Unbracketed front) (rest : Text) :
    b.balanced (front ++ b.closing ++ rest) = false := by
  obtain ⟨o, c, ho, hc, hoc⟩ := hb.chars
  have hne : ¬ [c] = b.opening := by
    rw [ho, List.singleton_inj]
    exact fun e => hoc e.symm
  rw [List.append_assoc, balanced_unbracketed_append hfront, hc, List.singleton_append, balanced,
    balancedFrom, if_neg hne, if_pos hc.symm]
  rfl

/-- An opening bracket that comes last is never closed. -/
theorem balancedFrom_opened {b : Brackets} (hb : b.Paired) {back : Text}
    (hback : b.Unbracketed back) (depth : Nat) (front : Text) :
    b.balancedFrom depth (front ++ b.opening ++ back) = false := by
  obtain ⟨o, -, ho, -⟩ := hb.chars
  induction front generalizing depth with
  | nil =>
    have hrest : b.balancedFrom (depth + 1) (back ++ []) = b.balancedFrom (depth + 1) [] :=
      balancedFrom_unbracketed_append hback (depth + 1) []
    rw [ho, List.nil_append, List.singleton_append, balancedFrom, if_pos ho.symm,
      ← List.append_nil back, hrest]
    rfl
  | cons x rest ih =>
    simp only [List.cons_append, balancedFrom]
    split
    · exact ih _
    · split
      · rw [ih, Bool.and_false]
      · exact ih _

theorem balanced_enclose {b : Brackets} (hb : b.Paired) {outer argument : Text}
    (houter : b.Unbracketed outer) (h : b.balanced argument = true) :
    b.balanced (b.enclose outer argument) = true := by
  obtain ⟨o, c, ho, hc, hoc⟩ := hb.chars
  have hne : ¬ [c] = b.opening := by
    rw [ho, List.singleton_inj]
    exact fun e => hoc e.symm
  -- the argument is read with one bracket open and leaves it open
  have hinner : b.balancedFrom 1 (argument ++ b.closing) = b.balancedFrom 1 b.closing :=
    b.balancedFrom_append argument b.closing 0 1 h
  have hclose : b.balancedFrom 1 b.closing = true := by
    rw [hc, balancedFrom, if_neg hne, if_pos hc.symm]
    rfl
  have hform : b.enclose outer argument = outer ++ (o :: (argument ++ b.closing)) := by
    rw [enclose, ho]
    simp
  rw [hform, balanced_unbracketed_append houter, balanced, balancedFrom, if_pos ho.symm, hinner,
    hclose]

end TargetTypes.Brackets
