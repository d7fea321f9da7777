import TargetTypes.Text

/-!
# Paths

A path is a root, if it has one, and the names after it. Repeated slashes count as one, a
single dot as nothing; two dots stay. Exactly two slashes in front are a root of their own.
A file is known by the bytes of its name, so two texts may name the same file.

    every text has a section, an empty one too                                (sections_ne_nil)
-/

namespace TargetTypes

/-- The bytes that stand for a name. -/
abbrev FileName := List UInt8

namespace Text

def fileName (text : Text) : FileName := text.flatMap CodePoint.bytes

def isNameable (text : Text) : Bool := text.all CodePoint.isNameable

end Text

instance : Coe String FileName := ⟨fun s => Text.fileName s⟩

structure Path where
  root : Text
  parts : List Text
deriving DecidableEq, Repr

namespace Path

/-! ## Algorithm -/

/-- What stands between slashes. -/
def sections : Text → List Text
  | [] => [[]]
  | c :: rest =>
    if c = '/' then [] :: sections rest
    else
      match sections rest with
      | first :: more => (c :: first) :: more
      | [] => [[c]]

def rootOf : Text → Text
  | .scalar '/' :: .scalar '/' :: .scalar '/' :: _ => "/"
  | .scalar '/' :: .scalar '/' :: _ => "//"
  | .scalar '/' :: _ => "/"
  | _ => []

def isPart (part : Text) : Bool := part ≠ [] ∧ part ≠ "."

def ofText (text : Text) : Path := ⟨rootOf text, (sections text).filter isPart⟩

/-- The path as it is shown; the working directory is a dot. -/
def text (path : Path) : Text :=
  if path.root = [] ∧ path.parts = [] then "." else path.root ++ Text.joined "/" path.parts

def parent (path : Path) : Path := { path with parts := path.parts.dropLast }

/-! ## Lemmas -/

theorem sections_ne_nil (text : Text) : sections text ≠ [] := by
  cases text with
  | nil => simp [sections]
  | cons c rest =>
    unfold sections
    split
    · simp
    · split <;> simp

end Path

end TargetTypes
