import TargetTypes.Proofs.Trail

/-!
# Writing a file

What was written is read back, and all other files are as they were. Where the text is not plain the
file is left empty, for it was opened first. A path below the working directory can be opened
whenever no file is in its way and no directory in its place: directories that are missing are made
one by one, and only the spelling and the length of names, and the number of directories that are
made at once, stand against it.

    an opened file is empty, the others are as before               (changedTo_openAnew)
    a written one holds the text, the others are as before          (changedTo_of_write)
    what was written is read                                        (read_of_write)
    only what has a fitting name is written                         (fits_of_write)
    missing directories can be made where no file is                (exists_ensure)
    unless they are too many                                        (ensure_eq_tooDeep)
    so a file can be written there                                  (exists_write)
-/

namespace TargetTypes

namespace Text

theorem joined_concat (separator : Text) {parts : List Text} (h : parts ≠ []) (last : Text) :
    joined separator (parts ++ [last]) = joined separator parts ++ separator ++ last := by
  induction parts with
  | nil => exact absurd rfl h
  | cons part rest ih =>
    cases rest with
    | nil => rfl
    | cons next more =>
      have hrest := ih (List.cons_ne_nil next more)
      simp only [List.cons_append, joined, List.append_assoc] at hrest ⊢
      rw [hrest]

theorem length_fileName_append (a b : Text) :
    (a ++ b).fileName.length = a.fileName.length + b.fileName.length := by
  rw [fileName, List.flatMap_append, List.length_append]
  rfl

theorem isNameable_append (a b : Text) :
    (a ++ b).isNameable = true ↔ a.isNameable = true ∧ b.isNameable = true := by
  rw [isNameable, List.all_append, Bool.and_eq_true]
  rfl

end Text

theorem Place.length_of_mem_ancestors {place above : Place} (h : above ∈ place.ancestors) :
    above.length < place.length := by
  induction place with
  | nil => cases h
  | cons step rest ih =>
    rcases List.mem_cons.mp h with rfl | hmem
    · exact Nat.lt_succ_self _
    · exact Nat.lt_succ_of_lt (ih hmem)

namespace Path

/-- Below the working directory, and never above it on the way. -/
structure Inside (path : Path) : Prop where
  relative : path.root = []
  no_up : (".." : Text) ∉ path.parts

instance (path : Path) : Decidable path.Inside :=
  decidable_of_iff (path.root = [] ∧ path.parts.contains ".." = false)
    ⟨fun h => ⟨h.1, by simpa using h.2⟩, fun h => ⟨h.relative, by simpa using h.no_up⟩⟩

/-- Spelled with what a name can have, and no longer than names and paths may be. -/
structure Fits (path : Path) : Prop where
  nameable : path.text.isNameable = true
  no_nul : .scalar '\x00' ∉ path.text
  size_text : path.text.fileName.length < 4096
  size_part : ∀ part ∈ path.parts, part.fileName.length ≤ 255

theorem foldl_next_of_no_up {parts : List Text} (h : (".." : Text) ∉ parts) (place : Place) :
    parts.foldl Place.next place = (parts.map Text.fileName).reverse ++ place := by
  induction parts generalizing place with
  | nil => rfl
  | cons part rest ih =>
    rw [List.mem_cons, not_or] at h
    rw [List.foldl_cons, ih h.2, Place.next, if_neg (fun e => h.1 e.symm), List.map_cons,
      List.reverse_cons, List.append_assoc, List.singleton_append]

theorem goal_of_inside {path : Path} (h : path.Inside) :
    path.goal = (path.parts.map Text.fileName).reverse := by
  rw [goal, start, if_pos h.relative, foldl_next_of_no_up h.no_up, List.append_nil]

section

variable {part : Text} {above : List Text}

theorem inside_above (h : Inside ⟨[], (part :: above).reverse⟩) : Inside ⟨[], above.reverse⟩ := by
  refine ⟨rfl, fun hmem => h.no_up ?_⟩
  rw [List.reverse_cons]
  exact List.mem_append_left _ hmem

theorem text_of_ne_nil {parts : List Text} (h : parts ≠ []) :
    text ⟨[], parts⟩ = Text.joined "/" parts := by
  rw [text, if_neg fun hnil => h hnil.2]
  rfl

theorem fits_above (h : Fits ⟨[], (part :: above).reverse⟩) : Fits ⟨[], above.reverse⟩ := by
  by_cases hnil : above = []
  · subst hnil
    exact ⟨by decide, by decide, by decide, fun part hmem => (List.not_mem_nil hmem).elim⟩
  · have habove : above.reverse ≠ [] := fun e => hnil (List.reverse_eq_nil_iff.mp e)
    obtain ⟨hname, hnul, hsize, hparts⟩ := h
    rw [List.reverse_cons] at hparts
    rw [List.reverse_cons, text_of_ne_nil (List.append_ne_nil_of_right_ne_nil _ (by simp)),
      Text.joined_concat _ habove] at hname hnul hsize
    refine ⟨?_, ?_, ?_, fun p hmem => hparts p (List.mem_append_left _ hmem)⟩
    · rw [text_of_ne_nil habove]
      exact ((Text.isNameable_append _ _).mp ((Text.isNameable_append _ _).mp hname).1).1
    · rw [text_of_ne_nil habove]
      exact fun hmem => hnul (List.mem_append_left _ (List.mem_append_left _ hmem))
    · rw [text_of_ne_nil habove]
      rw [Text.length_fileName_append, Text.length_fileName_append] at hsize
      omega

end

end Path

namespace Store

variable {store : Store} {climbs : Nat}

/-! ## What opening and writing leave -/

theorem step_setFile {place next : Place} {part : Text} (h : store.step place part = .ok next)
    (other : Place) (contents : Contents) :
    (store.setFile other contents).step place part = .ok next := by
  have hdirectory := (next_of_step h).1
  have hkept : (store.setFile other contents).isDirectory place = true := hdirectory
  rw [step, if_pos hdirectory] at h
  rw [step, if_pos hkept]
  exact h

theorem foldlM_step_setFile {place last : Place} {parts : List Text}
    (h : parts.foldlM store.step place = .ok last) (other : Place) (contents : Contents) :
    parts.foldlM (store.setFile other contents).step place = .ok last := by
  induction parts generalizing place with
  | nil => exact h
  | cons part rest ih =>
    obtain ⟨next, hstep, hrest⟩ := exists_step_of_foldlM h
    rw [List.foldlM_cons, step_setFile hstep]
    exact ih hrest

theorem locate_setFile {path : Path} {place : Place} (h : store.locate path = .ok place)
    (other : Place) (contents : Contents) :
    (store.setFile other contents).locate path = .ok place := by
  obtain ⟨hname, hnul, hsize, hway⟩ := locate_eq_ok_iff.mp h
  exact locate_eq_ok_iff.mpr ⟨hname, hnul, hsize, foldlM_step_setFile hway other contents⟩

theorem contents?_ensure {made : Store} {ending : Except Fault Unit} {root : Text}
    {parts : List Text} (h : store.ensure root climbs parts = (ending, made)) (place : Place) :
    made.contents? place = store.contents? place := by
  have hfiles := store.files_ensure root climbs parts
  rw [h] at hfiles
  exact congrArg (List.lookup place) hfiles

/-- A file is opened where its path leads, below the directories that are there by then. -/
theorem exists_of_openAnew {opened : Store} {path : Path} {place : Place}
    (h : store.openAnew climbs path = (.ok place, opened)) :
    ∃ made : Store, (∀ q, made.contents? q = store.contents? q) ∧
      made.locate path = .ok path.goal ∧ place = path.goal ∧
      opened = made.setFile path.goal (.text []) := by
  unfold openAnew at h
  split at h
  · cases h
  next made hmade =>
    split at h
    · cases h
    next there hplace =>
      obtain rfl := eq_goal_of_locate hplace
      split at h
      · cases h
      · cases h
        exact ⟨made, contents?_ensure hmade, hplace, rfl, rfl⟩

/-- One file holds the text, and every other one is as before. -/
def ChangedTo (before after : Store) (place : Place) (plain : Plain) : Prop :=
  after.contents? place = some (.text plain) ∧
    ∀ other, other ≠ place → after.contents? other = before.contents? other

theorem changedTo_openAnew {opened : Store} {path : Path} {place : Place}
    (h : store.openAnew climbs path = (.ok place, opened)) :
    store.ChangedTo opened path.goal [] := by
  obtain ⟨made, hkept, -, -, rfl⟩ := exists_of_openAnew h
  refine ⟨made.contents?_setFile_self _ _, fun other hne => ?_⟩
  rw [made.contents?_setFile_of_ne hne, hkept]

theorem write_of_plain {opened : Store} {path : Path} {place : Place} {text : Text} {plain : Plain}
    (h : store.openAnew climbs path = (.ok place, opened)) (hplain : text.plain? = some plain) :
    store.write climbs path text = (.ok (), opened.setFile place (.text plain)) := by
  rw [write, h]
  simp only [hplain]

theorem exists_of_write {left : Store} {path : Path} {text : Text}
    (h : store.write climbs path text = (.ok (), left)) :
    ∃ opened plain, store.openAnew climbs path = (.ok path.goal, opened) ∧
      text.plain? = some plain ∧ left = opened.setFile path.goal (.text plain) := by
  unfold write at h
  split at h
  · cases h
  next place opened hopen =>
    split at h
    next plain hplain =>
      cases h
      obtain ⟨-, -, -, rfl, -⟩ := exists_of_openAnew hopen
      exact ⟨opened, plain, hopen, hplain, rfl⟩
    · cases h

theorem read_of_write {left : Store} {path : Path} {text : Text}
    (h : store.write climbs path text = (.ok (), left)) :
    ∃ plain, text.plain? = some plain ∧ left.read path = .ok plain := by
  obtain ⟨opened, plain, hopen, hplain, rfl⟩ := exists_of_write h
  obtain ⟨made, -, hplace, -, rfl⟩ := exists_of_openAnew hopen
  have hway := locate_setFile (locate_setFile hplace path.goal (.text [])) path.goal (.text plain)
  refine ⟨plain, hplain, ?_⟩
  simp only [read, hway, bind, Except.bind, contents?_setFile_self]
  rfl

theorem changedTo_of_write {left : Store} {path : Path} {text : Text}
    (h : store.write climbs path text = (.ok (), left)) :
    ∃ plain, text.plain? = some plain ∧ store.ChangedTo left path.goal plain := by
  obtain ⟨opened, plain, hopen, hplain, rfl⟩ := exists_of_write h
  refine ⟨plain, hplain, opened.contents?_setFile_self _ _, fun other hne => ?_⟩
  rw [opened.contents?_setFile_of_ne hne]
  exact (changedTo_openAnew hopen).2 other hne

/-! ## When opening succeeds -/

theorem locate_of_fits {path : Path} (h : path.Fits) :
    store.locate path = path.parts.foldlM store.step path.start := by
  have hname : ¬ path.text.isNameable = false := Bool.not_eq_false _ ▸ h.nameable
  have hnul : ¬ path.text.contains '\x00' = true := by
    rw [List.contains_iff_mem]
    exact h.no_nul
  rw [locate, if_neg hname, if_neg hnul, if_neg (Nat.not_le.mpr h.size_text)]

theorem size_of_step {place next : Place} {part : Text} (h : store.step place part = .ok next) :
    part.fileName.length ≤ 255 := by
  unfold step at h
  split at h
  · split at h
    next hup =>
      subst hup
      decide
    · split at h
      · cases h
      next hshort => exact Nat.not_lt.mp hshort
  · split at h <;> cases h

theorem size_of_foldlM {place last : Place} {parts : List Text}
    (h : parts.foldlM store.step place = .ok last) :
    ∀ part ∈ parts, part.fileName.length ≤ 255 := by
  induction parts generalizing place with
  | nil => exact List.forall_mem_nil _
  | cons part rest ih =>
    obtain ⟨next, hstep, hrest⟩ := exists_step_of_foldlM h
    exact List.forall_mem_cons.mpr ⟨size_of_step hstep, ih hrest⟩

/-- What cannot be spelled or is too long leads nowhere. -/
theorem fits_of_locate {path : Path} {place : Place} (h : store.locate path = .ok place) :
    path.Fits := by
  obtain ⟨hname, hnul, hsize, hway⟩ := locate_eq_ok_iff.mp h
  exact ⟨hname, hnul, hsize, size_of_foldlM hway⟩

theorem fits_of_write {left : Store} {path : Path} {text : Text}
    (h : store.write climbs path text = (.ok (), left)) : path.Fits := by
  obtain ⟨opened, -, hopen, -⟩ := exists_of_write h
  obtain ⟨made, -, hplace, -⟩ := exists_of_openAnew hopen
  exact fits_of_locate hplace

/-- How many directories are missing above a place, from the first one missing on the way. -/
def missing (store : Store) : Place → Nat
  | [] => 0
  | step :: above =>
    if (Place.ancestors (step :: above)).all store.isDirectory then 0 else store.missing above + 1

/-- One more is missing above a place than above the directory it is in, unless none is. -/
theorem missing_cons_le_iff (store : Store) (step : FileName) (above : Place) (n : Nat) :
    store.missing (step :: above) ≤ n + 1 ↔ store.missing above ≤ n := by
  rw [missing]
  split
  next hall =>
    have hnone : store.missing above = 0 := by
      cases above with
      | nil => rfl
      | cons next rest =>
        rw [missing, if_pos]
        rw [Place.ancestors, List.all_cons, Bool.and_eq_true] at hall
        exact hall.2
    rw [hnone]
    exact iff_of_true (Nat.zero_le _) (Nat.zero_le _)
  next => exact Nat.add_le_add_iff_right

section

variable {steps : List Text}

/-- With no file on the way it is there, or a directory is missing. -/
theorem foldlM_step_reverse (hup : (".." : Text) ∉ steps)
    (hsize : ∀ part ∈ steps, part.fileName.length ≤ 255)
    (hfiles : ∀ above ∈ Place.ancestors (steps.map Text.fileName), store.contents? above = none) :
    (steps.reverse.foldlM store.step [] = .ok (steps.map Text.fileName) ∧
        ∀ above ∈ Place.ancestors (steps.map Text.fileName), store.isDirectory above = true) ∨
      (steps.reverse.foldlM store.step [] = .error .missingFile ∧
        ∃ above ∈ Place.ancestors (steps.map Text.fileName), store.isDirectory above = false) := by
  induction steps with
  | nil => exact Or.inl ⟨rfl, fun above hmem => (List.not_mem_nil hmem).elim⟩
  | cons part above ih =>
    rw [List.mem_cons, not_or] at hup
    rw [List.reverse_cons, List.foldlM_append]
    rw [List.map_cons, Place.ancestors] at hfiles ⊢
    rcases ih hup.2 (fun p hmem => hsize p (List.mem_cons_of_mem _ hmem))
        (fun q hmem => hfiles q (List.mem_cons_of_mem _ hmem)) with
      ⟨hway, hdirectories⟩ | ⟨hway, q, hmem, hq⟩
    · rw [hway]
      show [part].foldlM store.step (above.map Text.fileName) = _ ∧ _ ∨
        [part].foldlM store.step (above.map Text.fileName) = _ ∧ _
      have hstep : [part].foldlM store.step (above.map Text.fileName) =
          if store.isDirectory (above.map Text.fileName) then
            .ok (part.fileName :: above.map Text.fileName)
          else .error .missingFile := by
        have hone : [part].foldlM store.step (above.map Text.fileName) =
            store.step (above.map Text.fileName) part := by
          rw [List.foldlM_cons]
          cases store.step (above.map Text.fileName) part <;> rfl
        have hpart : part ≠ ".." := fun e => hup.1 e.symm
        have hshort : ¬ 255 < part.fileName.length :=
          Nat.not_lt.mpr (hsize part List.mem_cons_self)
        rw [hone, step, hfiles _ List.mem_cons_self]
        simp only [hpart, hshort, if_false, Option.isSome_none, Bool.false_eq_true]
      rw [hstep]
      cases hdirectory : store.isDirectory (above.map Text.fileName) with
      | true => exact Or.inl ⟨rfl, List.forall_mem_cons.mpr ⟨hdirectory, hdirectories⟩⟩
      | false => exact Or.inr ⟨rfl, _, List.mem_cons_self, hdirectory⟩
    · rw [hway]
      exact Or.inr ⟨rfl, q, List.mem_cons_of_mem _ hmem, hq⟩

variable (hinside : Path.Inside ⟨[], steps.reverse⟩) (hfits : Path.Fits ⟨[], steps.reverse⟩)

include hinside hfits

theorem locate_inside
    (hfiles : ∀ above ∈ Place.ancestors (steps.map Text.fileName), store.contents? above = none) :
    (store.locate ⟨[], steps.reverse⟩ = .ok (steps.map Text.fileName) ∧
        ∀ above ∈ Place.ancestors (steps.map Text.fileName), store.isDirectory above = true) ∨
      (store.locate ⟨[], steps.reverse⟩ = .error .missingFile ∧
        ∃ above ∈ Place.ancestors (steps.map Text.fileName), store.isDirectory above = false) := by
  rw [locate_of_fits hfits]
  exact foldlM_step_reverse (fun hmem => hinside.no_up (List.mem_reverse.mpr hmem))
    (fun part hmem => hfits.size_part part (List.mem_reverse.mpr hmem)) hfiles

theorem locate_of_directories
    (hfiles : ∀ above ∈ Place.ancestors (steps.map Text.fileName), store.contents? above = none)
    (hdirectories : ∀ above ∈ Place.ancestors (steps.map Text.fileName),
      store.isDirectory above = true) :
    store.locate ⟨[], steps.reverse⟩ = .ok (steps.map Text.fileName) := by
  rcases locate_inside hinside hfits hfiles with ⟨hplace, -⟩ | ⟨-, above, hmem, hmissing⟩
  · exact hplace
  · have hthere := hdirectories above hmem
    rw [hmissing] at hthere
    cases hthere

end

/-- A directory is made, or was there. -/
theorem exists_settle {path : Path} {place : Place} (hplace : store.locate path = .ok place)
    (hfile : store.contents? place = none) :
    ∃ made, store.settle path = (.ok (), made) ∧ made.isDirectory place = true ∧
      (∀ q, store.isDirectory q = true → made.isDirectory q = true) ∧
      ∀ q, made.isDirectory q = true → store.isDirectory q = true ∨ q = place := by
  rw [settle_of_ok hplace, hfile]
  cases hdirectory : store.isDirectory place with
  | true => exact ⟨store, rfl, hdirectory, fun q hq => hq, fun q hq => Or.inl hq⟩
  | false =>
    refine ⟨{ store with directories := place :: store.directories }, rfl, ?_, ?_, ?_⟩
    · simp [isDirectory]
    · intro q hq
      simp only [isDirectory, List.contains_cons, Bool.or_eq_true] at hq ⊢
      exact hq.elim Or.inl fun hq => Or.inr (Or.inr hq)
    · intro q hq
      simp only [isDirectory, List.contains_cons, Bool.or_eq_true, beq_iff_eq] at hq ⊢
      rcases hq with hq | hq | hq
      · exact Or.inl (Or.inl hq)
      · exact Or.inr hq
      · exact Or.inl (Or.inr hq)

section

variable {steps : List Text}

/-- Where no file is in the way all directories down to a place can be made, and no other is, if
they are not too many. -/
theorem exists_ensure (hinside : Path.Inside ⟨[], steps.reverse⟩)
    (hfits : Path.Fits ⟨[], steps.reverse⟩)
    (hfiles : ∀ q ∈ steps.map Text.fileName :: Place.ancestors (steps.map Text.fileName),
      store.contents? q = none)
    (hclimbs : store.missing (steps.map Text.fileName) ≤ climbs) :
    ∃ made, store.ensure [] climbs steps = (.ok (), made) ∧
      (∀ q ∈ steps.map Text.fileName :: Place.ancestors (steps.map Text.fileName),
        made.isDirectory q = true) ∧
      ∀ q, made.isDirectory q = true →
        store.isDirectory q = true ∨
          q ∈ steps.map Text.fileName :: Place.ancestors (steps.map Text.fileName) := by
  induction steps generalizing climbs with
  | nil =>
    have hplace : store.locate ⟨[], []⟩ = .ok [] :=
      locate_of_directories hinside hfits (List.forall_mem_nil _) (List.forall_mem_nil _)
    obtain ⟨made, hmade, hthere, -, hnew⟩ := exists_settle hplace (hfiles [] List.mem_cons_self)
    refine ⟨made, ?_, List.forall_mem_cons.mpr ⟨hthere, List.forall_mem_nil _⟩, fun q hq => ?_⟩
    · unfold ensure
      exact hmade
    · exact (hnew q hq).imp_right List.mem_singleton.mpr
  | cons part above ih =>
    rw [List.map_cons, Place.ancestors] at hfiles ⊢
    have hway := (List.forall_mem_cons.mp hfiles).2
    -- either all above is there, or it is made first and nothing of it is a file
    rcases locate_inside hinside hfits hway with ⟨hplace, hdirectories⟩ | ⟨hmissing, q, hmem, hq⟩
    · have hthere : store.locate ⟨[], (part :: above).reverse⟩ ≠ .error .missingFile := by
        rw [hplace]
        exact fun e => by cases e
      obtain ⟨made, hmade, hlast, hkept, hnew⟩ :=
        exists_settle hplace (hfiles _ List.mem_cons_self)
      refine ⟨made, (ensure_of_not_missing hthere).trans hmade, ?_, fun q hq => ?_⟩
      · exact List.forall_mem_cons.mpr ⟨hlast, fun q hmem => hkept q (hdirectories q hmem)⟩
      · exact (hnew q hq).imp_right fun e => List.mem_cons.mpr (Or.inl e)
    · have hsome : store.missing (List.map Text.fileName (part :: above)) =
          store.missing (above.map Text.fileName) + 1 := by
        rw [List.map_cons, missing, if_neg]
        intro hall
        have hthere := List.all_eq_true.mp hall q hmem
        rw [hq] at hthere
        cases hthere
      obtain ⟨climbs, rfl⟩ : ∃ n, climbs = n + 1 := ⟨climbs - 1, by omega⟩
      have hfewer : store.missing (above.map Text.fileName) ≤ climbs := by omega
      obtain ⟨upper, hupper, hdirectories, hnewUpper⟩ :=
        ih (Path.inside_above hinside) (Path.fits_above hfits) hway hfewer
      have hnone : ∀ q ∈ (part.fileName :: above.map Text.fileName) ::
          Place.ancestors (part.fileName :: above.map Text.fileName),
          upper.contents? q = none := by
        intro q hmem
        rw [contents?_ensure hupper]
        exact hfiles q hmem
      have hplace : upper.locate ⟨[], (part :: above).reverse⟩ =
          .ok (part.fileName :: above.map Text.fileName) :=
        locate_of_directories hinside hfits (List.forall_mem_cons.mp hnone).2 hdirectories
      obtain ⟨made, hmade, hlast, hkept, hnew⟩ :=
        exists_settle hplace (hnone _ List.mem_cons_self)
      refine ⟨made, ?_, ?_, fun q hq => ?_⟩
      · rw [ensure_of_missing hmissing, hupper]
        exact hmade
      · exact List.forall_mem_cons.mpr ⟨hlast, fun q hmem => hkept q (hdirectories q hmem)⟩
      · rcases hnew q hq with hq | rfl
        · exact (hnewUpper q hq).imp_right (List.mem_cons_of_mem _)
        · exact Or.inr List.mem_cons_self

/-- Where more directories are missing than are made at once, none is made. -/
theorem ensure_eq_tooDeep (hinside : Path.Inside ⟨[], steps.reverse⟩)
    (hfits : Path.Fits ⟨[], steps.reverse⟩)
    (hfiles : ∀ q ∈ Place.ancestors (steps.map Text.fileName), store.contents? q = none)
    (hdeep : climbs < store.missing (steps.map Text.fileName)) :
    (store.ensure [] climbs steps).1 = .error .tooDeep := by
  induction steps generalizing climbs with
  | nil => exact absurd hdeep (Nat.not_lt_zero _)
  | cons part above ih =>
    rcases locate_inside hinside hfits hfiles with ⟨-, hdirectories⟩ | ⟨hmissing, -⟩
    · have hnone : store.missing (List.map Text.fileName (part :: above)) = 0 :=
        if_pos (List.all_eq_true.mpr hdirectories)
      rw [hnone] at hdeep
      exact absurd hdeep (Nat.not_lt_zero _)
    · cases climbs with
      | zero => rw [ensure_zero_of_missing hmissing]
      | succ climbs =>
        have habove : climbs < store.missing (above.map Text.fileName) := by
          rw [List.map_cons, ← Nat.not_le, missing_cons_le_iff, Nat.not_le] at hdeep
          exact hdeep
        have hupper := ih (Path.inside_above hinside) (Path.fits_above hfits)
          (fun q hmem => hfiles q (List.mem_cons_of_mem _ hmem)) habove
        rw [ensure_of_missing hmissing]
        cases hensure : store.ensure [] climbs above with
        | mk ending made =>
          rw [hensure] at hupper
          obtain rfl : ending = .error .tooDeep := hupper
          rfl

end

/-- The names of a path, last one first, where it leads to a place below the working directory. -/
theorem exists_steps {path : Path} (hinside : path.Inside) (h : path.goal ≠ []) :
    ∃ part above, path = ⟨[], (part :: above).reverse⟩ ∧
      path.goal = part.fileName :: above.map Text.fileName := by
  have hgoal := Path.goal_of_inside hinside
  obtain ⟨root, parts⟩ := path
  obtain rfl : root = [] := hinside.relative
  cases hsteps : parts.reverse with
  | nil =>
    obtain rfl := List.reverse_eq_nil_iff.mp hsteps
    exact absurd hgoal h
  | cons part above =>
    obtain rfl : parts = (part :: above).reverse := by rw [← hsteps, List.reverse_reverse]
    refine ⟨part, above, rfl, ?_⟩
    rw [hgoal, List.map_reverse, List.reverse_reverse, List.map_cons]

theorem reverse_parent (part : Text) (above : List Text) :
    (Path.parent ⟨[], (part :: above).reverse⟩).parts.reverse = above := by
  rw [Path.parent, List.reverse_cons, List.dropLast_concat, List.reverse_reverse]

/-- A file can be opened where no directory is in its place and no file on its way, if not too many
directories are missing. -/
theorem exists_openAnew {path : Path} (hinside : path.Inside) (hfits : path.Fits)
    (hdirectory : store.isDirectory path.goal = false)
    (hfiles : ∀ above ∈ path.goal.ancestors, store.contents? above = none)
    (hmissing : store.missing path.goal ≤ climbs + 1) :
    ∃ opened, store.openAnew climbs path = (.ok path.goal, opened) := by
  have hbelow : path.goal ≠ [] := by
    intro hnil
    rw [hnil] at hdirectory
    cases hdirectory
  obtain ⟨part, above, rfl, hgoal⟩ := exists_steps hinside hbelow
  rw [hgoal] at hdirectory hfiles hmissing ⊢
  obtain ⟨made, hmade, hdirectories, hnew⟩ :=
    exists_ensure (Path.inside_above hinside) (Path.fits_above hfits) hfiles
      ((store.missing_cons_le_iff _ _ _).mp hmissing)
  have hnone : ∀ q ∈ Place.ancestors (part.fileName :: above.map Text.fileName),
      made.contents? q = none := by
    intro q hmem
    rw [contents?_ensure hmade]
    exact hfiles q hmem
  have hplace : made.locate ⟨[], (part :: above).reverse⟩ =
      .ok (part.fileName :: above.map Text.fileName) :=
    locate_of_directories hinside hfits hnone hdirectories
  -- only places above were made, so the place itself is as it was
  have hfree : made.isDirectory (part.fileName :: above.map Text.fileName) = false := by
    rw [Bool.eq_false_iff]
    intro hmadeThere
    rcases hnew _ hmadeThere with hthere | hmem
    · rw [hdirectory] at hthere
      cases hthere
    · exact Nat.lt_irrefl _ (Place.length_of_mem_ancestors hmem)
  refine ⟨made.setFile (part.fileName :: above.map Text.fileName) (.text []), ?_⟩
  rw [openAnew, reverse_parent, hmade]
  simp only [hplace, hfree, Bool.false_eq_true, if_false]

theorem exists_write {path : Path} (hinside : path.Inside) (hfits : path.Fits)
    (hdirectory : store.isDirectory path.goal = false)
    (hfiles : ∀ above ∈ path.goal.ancestors, store.contents? above = none)
    (hmissing : store.missing path.goal ≤ climbs + 1) {text : Text}
    (hplain : text.plain?.isSome = true) :
    ∃ left, store.write climbs path text = (.ok (), left) := by
  obtain ⟨opened, hopen⟩ := exists_openAnew hinside hfits hdirectory hfiles hmissing
  obtain ⟨plain, hplain⟩ := Option.isSome_iff_exists.mp hplain
  exact ⟨_, write_of_plain hopen hplain⟩

/-- What is written below has no more directories missing above it than are made at once. -/
theorem missing_le_of_write {left : Store} {path : Path} {text : Text}
    (h : store.write climbs path text = (.ok (), left)) (hinside : path.Inside)
    (hfiles : ∀ above ∈ path.goal.ancestors, store.contents? above = none) :
    store.missing path.goal ≤ climbs + 1 := by
  by_cases hbelow : path.goal = []
  · rw [hbelow]
    exact Nat.zero_le _
  · have hfits := fits_of_write h
    obtain ⟨part, above, rfl, hgoal⟩ := exists_steps hinside hbelow
    rw [hgoal] at hfiles ⊢
    rw [missing_cons_le_iff, ← Nat.not_lt]
    intro hdeep
    have htooDeep := ensure_eq_tooDeep (Path.inside_above hinside) (Path.fits_above hfits)
      (fun q hmem => hfiles q (List.mem_cons_of_mem _ hmem)) hdeep
    obtain ⟨opened, plain, hopen, -, -⟩ := exists_of_write h
    rw [openAnew, reverse_parent] at hopen
    cases hensure : store.ensure [] climbs above with
    | mk ending made =>
      rw [hensure] at htooDeep hopen
      obtain rfl : ending = .error .tooDeep := htooDeep
      cases hopen

end Store

end TargetTypes
