import TargetTypes.Text.Bracket
import TargetTypes.Text.Template

/-!
# The words of a target language

A lexicon holds how one language writes lists, optionals and bounds, which names are its
primitives, and which reference type stands for a primitive inside a generic.
-/

namespace TargetTypes

structure Lexicon where
  listMarker : Text
  optionalMarker : Text
  boundMarker : Text
  brackets : Brackets := ⟨"[", "]"⟩
  listAliases : List Text := []
  optionalAliases : List Text := []
  primitives : List Text := []
  boxes : List (Text × Text) := []
deriving DecidableEq, Repr

namespace Lexicon

/-- Every way to write a list, the language's own first. -/
def listMarkers (lex : Lexicon) : List Text := lex.listMarker :: lex.listAliases

def optionalMarkers (lex : Lexicon) : List Text := lex.optionalMarker :: lex.optionalAliases

/-- The reference type for a primitive that has one; any other name is its own. -/
def box (lex : Lexicon) (name : Text) : Text := (lex.boxes.lookup name).getD name

/-- A generic type with its argument: a template takes the argument into its slots, a plain
name takes it in brackets. -/
def generic (lex : Lexicon) (outer argument : Text) : Text :=
  if outer.hasSlot then outer.fill argument else lex.brackets.enclose outer argument

/-! ## Lemmas -/

theorem generic_of_not_hasSlot (lex : Lexicon) {outer : Text} (argument : Text)
    (h : Text.hasSlot outer = false) :
    lex.generic outer argument = lex.brackets.enclose outer argument := by
  simp [generic, h]

end Lexicon

end TargetTypes
