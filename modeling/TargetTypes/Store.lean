import TargetTypes.Fault
import TargetTypes.Store.Path

/-!
# A store of files

Files and directories by place. A place lists the steps that lead to it from the working
directory, the last step first. Above the working directory nothing is known but that it is
there; what is below another root is apart. Files are written in UTF-8, and so are names.

    making directories leaves every file as it is                               (files_ensure)
    so does a file that cannot be opened                             (files_openAnew_of_error)
    a file that was written holds what was written                       (contents?_setFile_self)
    every other file is left as it is                                   (contents?_setFile_of_ne)
-/

namespace TargetTypes

abbrev Place := List FileName

/-- A file holds a text, or bytes that spell none. -/
inductive Contents where
  | text (plain : Plain)
  | bytes (raw : List UInt8)
deriving DecidableEq, Repr

structure Store where
  files : List (Place × Contents) := []
  directories : List Place := []
deriving Repr

namespace Place

/-- The step to the directory above. -/
def upStep : FileName := ".."

def rootStep : FileName := "/"

/-- One level up. The working directory has directories above it, a root has none. -/
def up : Place → Place
  | [] => [upStep]
  | step :: rest =>
    if step = upStep then step :: step :: rest
    else if step = rootStep then step :: rest
    else rest

/-- The working directory, all above it, and the root are there from the start. -/
def isGiven (place : Place) : Bool := place.all (· = upStep) || place = [rootStep]

/-- All places above a place. -/
def ancestors : Place → List Place
  | [] => []
  | _ :: rest => rest :: ancestors rest

/-- Lies in the working directory or below it. -/
def isInside (place : Place) : Bool := place.all fun step => step ≠ upStep ∧ step ≠ rootStep

/-- The path to a place, if its name is all in UTF-8. -/
def spelling? (place : Place) : Option String :=
  let name : FileName :=
    match place.reverse with
    | [] => "."
    | first :: rest =>
      if first = rootStep then rootStep ++ List.intercalate "/" rest
      else List.intercalate "/" (first :: rest)
  String.fromUTF8? ⟨name.toArray⟩

end Place

namespace Path

/-- Where a path starts. -/
def start (path : Path) : Place := if path.root = [] then [] else [Place.rootStep]

end Path

namespace Store

/-! ## Algorithm -/

def contents? (store : Store) (place : Place) : Option Contents := store.files.lookup place

def isDirectory (store : Store) (place : Place) : Bool :=
  place.isGiven || store.directories.contains place

/-- Sets the contents of a file, a new one behind the others. -/
def setEntry (place : Place) (contents : Contents) :
    List (Place × Contents) → List (Place × Contents)
  | [] => [(place, contents)]
  | (p, held) :: rest =>
    if p = place then (p, contents) :: rest else (p, held) :: setEntry place contents rest

def setFile (store : Store) (place : Place) (contents : Contents) : Store :=
  { store with files := setEntry place contents store.files }

/-- One step on the way; only from a directory there is a way on. -/
def step (store : Store) (place : Place) (part : Text) : Except Fault Place :=
  if store.isDirectory place then
    if part = ".." then .ok place.up
    else if 255 < part.fileName.length then .error .nameTooLong
    else .ok (part.fileName :: place)
  else if (store.contents? place).isSome then .error .notDirectory
  else .error .missingFile

/-- The place a path leads to, whether or not something is there. -/
def locate (store : Store) (path : Path) : Except Fault Place :=
  if path.text.isNameable = false then .error .unencodable
  else if path.text.contains '\x00' then .error .embeddedNul
  else if 4096 ≤ path.text.fileName.length then .error .nameTooLong
  else path.parts.foldlM store.step path.start

def read (store : Store) (path : Path) : Except Fault Plain := do
  let place ← store.locate path
  match store.contents? place with
  | some (.text plain) => return plain
  | some (.bytes _) => throw .undecodable
  | none => throw (if store.isDirectory place then .isDirectory else .missingFile)

def isDirectoryAt (store : Store) (path : Path) : Bool :=
  match store.locate path with
  | .ok place => store.isDirectory place
  | .error _ => false

/-- Makes one directory in a directory that is there. -/
def makeDirectory (store : Store) (path : Path) : Except Fault Store := do
  let place ← store.locate path
  if store.isDirectory place || (store.contents? place).isSome then throw .fileExists
  return { store with directories := place :: store.directories }

/-- Makes a directory unless it is there. -/
def settle (store : Store) (path : Path) : Except Fault Unit × Store :=
  match store.makeDirectory path with
  | .ok made => (.ok (), made)
  | .error fault => (if store.isDirectoryAt path then .ok () else .error fault, store)

/-- Makes a directory and all that is missing above it, turning to the one above at most `climbs`
times. The parts come last one first. -/
def ensure (store : Store) (root : Text) : (climbs : Nat) → List Text → Except Fault Unit × Store
  | _, [] => store.settle ⟨root, []⟩
  | climbs, part :: above =>
    match store.makeDirectory ⟨root, (part :: above).reverse⟩ with
    | .error .missingFile =>
      match climbs with
      | 0 => (.error .tooDeep, store)
      | climbs + 1 =>
        match ensure store root climbs above with
        | (.ok (), made) => made.settle ⟨root, (part :: above).reverse⟩
        | (.error fault, made) => (.error fault, made)
    | _ => store.settle ⟨root, (part :: above).reverse⟩

/-- Opens a file to write it anew, making the directories above it: from here on it is empty. What
was made stays where opening fails. -/
def openAnew (store : Store) (climbs : Nat) (path : Path) : Except Fault Place × Store :=
  match store.ensure path.root climbs path.parent.parts.reverse with
  | (.error fault, made) => (.error fault, made)
  | (.ok (), made) =>
    match made.locate path with
    | .error fault => (.error fault, made)
    | .ok place =>
      if made.isDirectory place then (.error .isDirectory, made)
      else (.ok place, made.setFile place (.text []))

/-- Opens a file and writes a text to it. Only then it shows that a text is not plain. -/
def write (store : Store) (climbs : Nat) (path : Path) (text : Text) : Except Fault Unit × Store :=
  match store.openAnew climbs path with
  | (.error fault, left) => (.error fault, left)
  | (.ok place, opened) =>
    match text.plain? with
    | some plain => (.ok (), opened.setFile place (.text plain))
    | none => (.error .unencodable, opened)

/-- Takes down a file that is there, and the directories on the way to it. -/
def addFile (store : Store) (path : Path) (contents : Contents) : Store :=
  let place : Place := (path.parts.map Text.fileName).reverse ++ path.start
  { files := setEntry place contents store.files
    directories := place.ancestors ++ store.directories }

/-- Takes down that a directory is there. -/
def addDirectory (store : Store) (path : Path) : Store :=
  match store.locate path with
  | .ok place => { store with directories := place :: store.directories }
  | .error _ => store

/-- Files that are new or hold something else than before. -/
def changes (before after : Store) : List (Place × Contents) :=
  after.files.filter fun (place, contents) => before.contents? place != some contents

/-- Directories that were made, in the order they were made. -/
def newDirectories (before after : Store) : List Place :=
  (after.directories.filter fun place => !before.isDirectory place).reverse

/-! ## Lemmas -/

theorem contents?_setFile_self (store : Store) (place : Place) (contents : Contents) :
    (store.setFile place contents).contents? place = some contents := by
  have h : ∀ files : List (Place × Contents),
      (setEntry place contents files).lookup place = some contents := by
    intro files
    induction files with
    | nil => simp [setEntry]
    | cons e rest ih =>
      obtain ⟨p, t⟩ := e
      by_cases hp : p = place
      · simp [setEntry, hp]
      · have hk : (place == p) = false := beq_false_of_ne fun e => hp e.symm
        simp [setEntry, hp, List.lookup_cons, hk, ih]
  exact h store.files

theorem contents?_setFile_of_ne (store : Store) {place other : Place} (h : other ≠ place)
    (contents : Contents) :
    (store.setFile place contents).contents? other = store.contents? other := by
  have hk : (other == place) = false := beq_false_of_ne h
  have hf : ∀ files : List (Place × Contents),
      (setEntry place contents files).lookup other = files.lookup other := by
    intro files
    induction files with
    | nil => simp [setEntry, List.lookup_cons, hk]
    | cons e rest ih =>
      obtain ⟨p, t⟩ := e
      by_cases hp : p = place
      · subst hp
        simp [setEntry, List.lookup_cons, hk]
      · simp [setEntry, hp, List.lookup_cons, ih]
  exact hf store.files

theorem files_makeDirectory {store made : Store} {path : Path}
    (h : store.makeDirectory path = .ok made) : made.files = store.files := by
  unfold makeDirectory at h
  cases hl : store.locate path with
  | error f =>
    rw [hl] at h
    cases h
  | ok place =>
    rw [hl] at h
    simp only [bind, Except.bind] at h
    split at h
    · cases h
    · cases h
      rfl

theorem files_settle (store : Store) (path : Path) :
    (store.settle path).2.files = store.files := by
  unfold settle
  cases h : store.makeDirectory path with
  | ok made => exact files_makeDirectory h
  | error _ => rfl

theorem files_ensure (store : Store) (root : Text) (climbs : Nat) (parts : List Text) :
    (store.ensure root climbs parts).2.files = store.files := by
  induction parts generalizing climbs with
  | nil =>
    unfold ensure
    exact store.files_settle _
  | cons part above ih =>
    unfold ensure
    split
    · split
      · rfl
      next climbs =>
        have habove := ih climbs
        split
        next made hm =>
          rw [files_settle]
          rw [hm] at habove
          exact habove
        next fault made hm =>
          rw [hm] at habove
          exact habove
    · exact store.files_settle _

end Store

end TargetTypes
