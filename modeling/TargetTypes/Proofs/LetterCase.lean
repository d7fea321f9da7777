import Mathlib
import TargetTypes.Text.Case

/-!
# Words in upper and in lower case

On ASCII a text says the same in either case. Beyond it the two take different texts for one: a long
s and a dotless i have a plain capital, but stay as they are in lower case; the Kelvin sign has a
plain small letter, but stays in upper case. Several capitals can also come from one ligature. So
that a text spells a word in one case says that it does in the other only where these are kept out.

    a plain letter comes from a run that leads to it, or from itself             (run_of_recase)
    in lower case the word ↔ in upper case the word, and ASCII                    (lower_eq_iff)
    in upper case the word → ASCII, but for long s and dotless i           (isAscii_of_upper_eq)
    in lower case the word ↔ in upper case the word, without these two  (lower_eq_iff_upper_eq)
-/

namespace TargetTypes

/-- A number beyond all code points counts as 0. -/
theorem CodePoint.toNat_ofNat_of_pos {n : Nat} (h : 0 < (CodePoint.ofNat n).toNat) : (CodePoint.ofNat n).toNat = n := by
  unfold CodePoint.ofNat at h ⊢
  split
  next hrange =>
    show 0xD800 + (n - 0xD800) = n
    omega
  next hrange =>
    rw [dif_neg hrange] at h
    simp only [CodePoint.toNat, Char.toNat_ofNat] at h ⊢
    split at h
    next hvalid => exact if_pos hvalid
    next => omega

namespace Text

/-! ## Algorithm -/

def IsAscii (c : CodePoint) : Prop := c.toNat < 128

instance (c : CodePoint) : Decidable (IsAscii c) := inferInstanceAs (Decidable (c.toNat < 128))

/-- The runs with an image from `low` to `high`. -/
def runsInto (low high : Nat) (runs : List CaseRun) : List CaseRun :=
  runs.filter fun (first, last, _, image) => image ≤ high && low ≤ image + (last - first)

/-- Lower case of one code point; `final` says whether a capital sigma ends its word. -/
def lowerOf (final : Bool) (c : CodePoint) : Text :=
  if c = 'Σ' then (if final then "ς" else "σ") else lowerChar c

def isBetween (low high : Nat) (c : CodePoint) : Bool := low ≤ c.toNat && c.toNat ≤ high

/-! ## Runs -/

theorem isUpper_iff (c : Char) : c.isUpper = true ↔ 65 ≤ c.toNat ∧ c.toNat ≤ 90 := by
  simp [Char.isUpper, UInt32.le_iff_toNat_le]

theorem isLower_iff (c : Char) : c.isLower = true ↔ 97 ≤ c.toNat ∧ c.toNat ≤ 122 := by
  simp [Char.isLower, UInt32.le_iff_toNat_le]

/-- An image is as far behind its run's first image as the code point is behind the run's first, so
the run leads between any bounds of the image. -/
theorem run_of_image? {runs : List CaseRun} {n m low high : Nat} (h : image? runs n = some m)
    (hlow : low ≤ m) (hhigh : m ≤ high) :
    ∃ run ∈ runsInto low high runs, run.1 ≤ n ∧ n ≤ run.2.1 := by
  induction runs with
  | nil => cases h
  | cons run rest ih =>
    obtain ⟨first, last, step, image⟩ := run
    unfold image? at h
    split at h
    · cases h
    next hfirst =>
      split at h
      next hlast =>
        split at h
        · obtain rfl := Option.some.inj h
          refine ⟨_, List.mem_filter.mpr ⟨List.mem_cons_self, ?_⟩, Nat.le_of_not_lt hfirst, hlast⟩
          simp only [Bool.and_eq_true, decide_eq_true_eq]
          omega
        · cases h
      next =>
        obtain ⟨run, hm, hrun⟩ := ih h
        exact ⟨run, ((List.sublist_cons_self _ rest).filter _).mem hm, hrun⟩

/-- The plain small letters, dotless i and long s. -/
theorem runsInto_upperRuns : runsInto 65 90 upperRuns =
    [(97, 122, 1, 65), (0x131, 0x131, 1, 73), (0x17F, 0x17F, 1, 83)] := by decide +kernel

/-- The plain capitals and the Kelvin sign. -/
theorem runsInto_lowerRuns : runsInto 97 122 lowerRuns =
    [(65, 90, 1, 97), (0x212A, 0x212A, 1, 107)] := by decide +kernel

/-- A code point goes over into one other, into what the table says, or stays. -/
theorem recase_cases (runs : List CaseRun) (expansions : List (Nat × List Nat)) (c : CodePoint) :
    (∃ n, image? runs c.toNat = some n ∧ recase runs expansions c = [CodePoint.ofNat n]) ∨
      (∃ e ∈ expansions, recase runs expansions c = e.2.map CodePoint.ofNat) ∨
      recase runs expansions c = [c] := by
  unfold recase
  cases image? runs c.toNat with
  | some n => exact Or.inl ⟨n, rfl, rfl⟩
  | none =>
    cases hlookup : expansions.lookup c.toNat with
    | none => exact Or.inr (Or.inr rfl)
    | some ns =>
      obtain ⟨before, after, hsplit, -⟩ := List.lookup_eq_some_iff.mp hlookup
      exact Or.inr (Or.inl ⟨(c.toNat, ns), by simp [hsplit], rfl⟩)

/-- Where a code point's other case is part of a word, and no expansion is, the code point is in a
run that leads to the word's letters, or it is one of them. -/
theorem run_of_recase {runs : List CaseRun} {expansions : List (Nat × List Nat)} {c : CodePoint}
    {word : Text} {low high : Nat} (hpos : 0 < low)
    (hword : ∀ w ∈ word, low ≤ w.toNat ∧ w.toNat ≤ high)
    (hexpansions : ∀ e ∈ expansions, ¬ e.2.map CodePoint.ofNat <:+: word)
    (h : recase runs expansions c <:+: word) :
    (∃ run ∈ runsInto low high runs, run.1 ≤ c.toNat ∧ c.toNat ≤ run.2.1) ∨ c ∈ word := by
  rcases recase_cases runs expansions c with ⟨n, himage, he⟩ | ⟨e, hm, he⟩ | he
  · rw [he] at h
    obtain ⟨hlow, hhigh⟩ := hword _ (h.subset List.mem_cons_self)
    have hn : (CodePoint.ofNat n).toNat = n :=
      CodePoint.toNat_ofNat_of_pos (Nat.lt_of_lt_of_le hpos hlow)
    rw [hn] at hlow hhigh
    exact Or.inl (run_of_image? himage hlow hhigh)
  · rw [he] at h
    exact absurd h (hexpansions e hm)
  · rw [he] at h
    exact Or.inr (h.subset List.mem_cons_self)

/-! ## ASCII -/

theorem upperChar_all : ∀ n, n < 128 →
    upperChar (Char.ofNat n) = [.scalar (Char.ofNat n).toUpper] := by
  decide +kernel

theorem lowerOf_all : ∀ n, n < 128 → ∀ final,
    lowerOf final (Char.ofNat n) = [.scalar (Char.ofNat n).toLower] := by
  decide +kernel

theorem upper_of_isAscii {plain : Plain} (h : ∀ c ∈ plain.text, IsAscii c) :
    upper plain.text = Plain.text (plain.map Char.toUpper) := by
  induction plain with
  | nil => rfl
  | cons c rest ih =>
    have hall := upperChar_all c.toNat (h c List.mem_cons_self)
    rw [Char.ofNat_toNat] at hall
    have hrest := ih fun d hd => h d (List.mem_cons_of_mem _ hd)
    show upperChar c ++ upper (Plain.text rest) = _
    rw [hall, hrest]
    rfl

theorem lowerFrom_of_isAscii {plain : Plain} (h : ∀ c ∈ plain.text, IsAscii c) (inWord : Bool) :
    lowerFrom inWord plain.text = Plain.text (plain.map Char.toLower) := by
  induction plain generalizing inWord with
  | nil => rfl
  | cons c rest ih =>
    have hall := lowerOf_all c.toNat (h c List.mem_cons_self)
      (inWord && endsWord (Plain.text rest))
    rw [Char.ofNat_toNat] at hall
    have hrest := ih (fun d hd => h d (List.mem_cons_of_mem _ hd))
      (if isIgnorable c then inWord else isCased c)
    show lowerOf (inWord && endsWord (Plain.text rest)) c ++ lowerFrom _ (Plain.text rest) = _
    rw [hall, hrest]
    rfl

/-- What is ASCII is plain. -/
theorem exists_plain_of_isAscii {text : Text} (h : ∀ c ∈ text, IsAscii c) :
    ∃ plain : Plain, text = plain.text := by
  induction text with
  | nil => exact ⟨[], rfl⟩
  | cons c rest ih =>
    obtain ⟨plain, rfl⟩ := ih fun d hd => h d (List.mem_cons_of_mem _ hd)
    cases c with
    | scalar c => exact ⟨c :: plain, rfl⟩
    | surrogate offset =>
      have hlow : 0xD800 + offset.val < 128 := h _ List.mem_cons_self
      omega

/-- On ASCII both cases tell the same texts apart. -/
theorem lower_eq_iff_of_isAscii {text : Text} {word : Plain} (h : ∀ c ∈ text, IsAscii c)
    (hword : ∀ w ∈ word, w.isLower = true) :
    lower text = word.text ↔ upper text = Plain.text (word.map Char.toUpper) := by
  obtain ⟨plain, rfl⟩ := exists_plain_of_isAscii h
  rw [upper_of_isAscii h, lower, lowerFrom_of_isAscii h, Plain.text_inj, Plain.text_inj]
  constructor
  · rintro rfl
    simp only [List.map_map, Function.comp_def, Char.toUpper_toLower_eq_toUpper]
  · intro hupper
    have hback := congrArg (List.map Char.toLower) hupper
    simp only [List.map_map, Function.comp_def, Char.toLower_toUpper_eq_toLower] at hback
    rw [hback]
    conv_rhs => rw [← List.map_id word]
    exact List.map_congr_left fun w hw =>
      Char.toLower_eq_of_not_isUpper (Char.not_isUpper_of_isLower (hword w hw))

/-! ## Words -/

theorem infix_upper {c : CodePoint} {text : Text} (hc : c ∈ text) : upperChar c <:+: upper text :=
  List.infix_flatMap_of_mem hc upperChar

theorem infix_lowerFrom {c : CodePoint} {text : Text} (hc : c ∈ text) (inWord : Bool) :
    ∃ final, lowerOf final c <:+: lowerFrom inWord text := by
  induction text generalizing inWord with
  | nil => cases hc
  | cons d rest ih =>
    rcases List.mem_cons.mp hc with rfl | hrest
    · exact ⟨inWord && endsWord rest, (List.prefix_append _ _).isInfix⟩
    · obtain ⟨final, hpart⟩ := ih hrest (if isIgnorable d then inWord else isCased d)
      exact ⟨final, hpart.trans (List.suffix_append _ _).isInfix⟩

/-- A word of capitals without expansions comes from ASCII, from long s and from dotless i. -/
theorem isAscii_of_upper_eq {text : Text} {word : Plain} (h : upper text = word.text)
    (hword : ∀ w ∈ word, w.isUpper = true)
    (hexpansions : ∀ e ∈ upperExpansions, ¬ e.2.map CodePoint.ofNat <:+: word.text) :
    ∀ c ∈ text, IsAscii c ∨ c = 'ſ' ∨ c = 'ı' := by
  intro c hc
  have hletters : ∀ w ∈ word.text, 65 ≤ w.toNat ∧ w.toNat ≤ 90 :=
    List.forall_mem_map.mpr fun w hw => (isUpper_iff w).mp (hword w hw)
  rcases run_of_recase (by decide) hletters hexpansions (h ▸ infix_upper hc) with
    ⟨run, hrun, hfirst, hlast⟩ | hm
  · simp only [runsInto_upperRuns, List.mem_cons, List.not_mem_nil, or_false] at hrun
    rcases hrun with rfl | rfl | rfl
    · exact Or.inl (Nat.lt_of_le_of_lt hlast (by decide))
    · exact Or.inr (Or.inr (CodePoint.toNat_inj.mp (Nat.le_antisymm hlast hfirst)))
    · exact Or.inr (Or.inl (CodePoint.toNat_inj.mp (Nat.le_antisymm hlast hfirst)))
  · exact Or.inl (Nat.lt_of_le_of_lt (hletters c hm).2 (by decide))

/-- A capital that gives several small characters gives one that is no plain letter. -/
theorem all_isBetween_expansions : ∀ e ∈ lowerExpansions,
    (e.2.map CodePoint.ofNat).all (isBetween 97 122) = false := by decide +kernel

theorem all_isBetween_sigma : ∀ final, (lowerOf final 'Σ').all (isBetween 97 122) = false := by
  decide +kernel

/-- A word of small letters without k comes from ASCII. -/
theorem isAscii_of_lower_eq {text : Text} {word : Plain} (h : lower text = word.text)
    (hword : ∀ w ∈ word, w.isLower = true) (hkelvin : 'k' ∉ word) :
    ∀ c ∈ text, IsAscii c := by
  intro c hc
  have hletters : ∀ w ∈ word.text, 97 ≤ w.toNat ∧ w.toNat ≤ 122 :=
    List.forall_mem_map.mpr fun w hw => (isLower_iff w).mp (hword w hw)
  have hplain {part : Text} (hpart : part <:+: word.text) : part.all (isBetween 97 122) ≠ false :=
    ne_false_of_eq_true (List.all_eq_true.mpr fun d hd => by
      simpa [isBetween] using hletters d (hpart.subset hd))
  obtain ⟨final, hpart⟩ := infix_lowerFrom hc false
  rw [← lower, h] at hpart
  have hsigma : c ≠ 'Σ' := by
    rintro rfl
    exact hplain hpart (all_isBetween_sigma final)
  rw [lowerOf, if_neg hsigma] at hpart
  rcases run_of_recase (by decide) hletters
    (fun e he hpart => hplain hpart (all_isBetween_expansions e he)) hpart with
    ⟨run, hrun, hfirst, hlast⟩ | hm
  · simp only [runsInto_lowerRuns, List.mem_cons, List.not_mem_nil, or_false] at hrun
    rcases hrun with rfl | rfl
    · exact Nat.lt_of_le_of_lt hlast (by decide)
    · have hc : c = '\u212a' := CodePoint.toNat_inj.mp (Nat.le_antisymm hlast hfirst)
      have hsmall : lowerChar '\u212a' = "k" := by decide +kernel
      rw [hc, hsmall] at hpart
      obtain ⟨k, hk, he⟩ := List.mem_map.mp (hpart.subset List.mem_cons_self)
      obtain rfl := CodePoint.scalar.inj he
      exact absurd hk hkelvin
  · exact Nat.lt_of_le_of_lt (hletters c hm).2 (by decide)

section

variable {text : Text} {word : Plain} (hword : ∀ w ∈ word, w.isLower = true) (hkelvin : 'k' ∉ word)

include hword hkelvin

theorem lower_eq_iff :
    lower text = word.text ↔
      upper text = Plain.text (word.map Char.toUpper) ∧ ∀ c ∈ text, IsAscii c := by
  constructor
  · intro h
    have hascii := isAscii_of_lower_eq h hword hkelvin
    exact ⟨(lower_eq_iff_of_isAscii hascii hword).mp h, hascii⟩
  · rintro ⟨h, hascii⟩
    exact (lower_eq_iff_of_isAscii hascii hword).mpr h

/-- Where no expansion is part of the word's capitals, only with two letters a text can spell the word
in upper case and not in lower case. -/
theorem lower_eq_iff_upper_eq
    (hexpansions : ∀ e ∈ upperExpansions,
      ¬ e.2.map CodePoint.ofNat <:+: Plain.text (word.map Char.toUpper)) :
    lower text = word.text ↔
      upper text = Plain.text (word.map Char.toUpper) ∧ .scalar 'ſ' ∉ text ∧ .scalar 'ı' ∉ text := by
  rw [lower_eq_iff hword hkelvin]
  refine and_congr_right fun h => ⟨fun hascii => ⟨fun hm => ?_, fun hm => ?_⟩, ?_⟩
  · exact absurd (hascii _ hm) (by decide)
  · exact absurd (hascii _ hm) (by decide)
  · rintro ⟨hlong, hdotless⟩ c hc
    have hcapital : ∀ w ∈ word.map Char.toUpper, w.isUpper = true := by
      simp only [List.forall_mem_map, Char.isUpper_toUpper_eq_isAlpha, Char.isAlpha]
      exact fun w hw => by rw [hword w hw, Bool.or_true]
    rcases isAscii_of_upper_eq h hcapital hexpansions c hc with hc' | rfl | rfl
    · exact hc'
    · exact absurd hc hlong
    · exact absurd hc hdotless

end

end Text

end TargetTypes
