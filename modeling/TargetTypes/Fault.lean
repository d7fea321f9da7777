import TargetTypes.Text.Quoted

/-!
# Faults

What can go wrong, by cause, and the wording of each cause. Of two steps the second one is taken if
the first one succeeds.
-/

namespace TargetTypes

inductive Fault where
  /-- Options that do not exist, ascending. -/
  | unknownOptions (names : List Text)
  | notTypeNames (option : Text)
  | notTypeTable (option : Text)
  | notText (option kind : Text)
  | unsupportedLanguage (name : Text) (supported : List Text)
  | notDefinitions (path : Text)
  | missingKey (key : Text)
  /-- A value of a kind that cannot stand where it stands. -/
  | wrongKind
  /-- A value that has to be taken apart as a name and is no text. -/
  | notAName
  /-- Options that are not written as an object. -/
  | notAnObject
  | malformed
  /-- A file whose bytes are no text. -/
  | undecodable
  /-- A surrogate where there is none: in what a file or a name of one is to hold, or in what the
  standard output takes. -/
  | unencodable
  /-- An integer that is written with more digits than the limit. -/
  | longInteger (digits limit : Nat)
  | missingFile
  | isDirectory
  | notDirectory
  | fileExists
  | nameTooLong
  | embeddedNul
  /-- More directories missing, one below another, than are made at once. -/
  | tooDeep
  | usage
  /-- The command was asked for help, not for a preview. -/
  | help
deriving DecidableEq, Repr

namespace Fault

def message : Fault → Text
  | .unknownOptions names => "Unknown mapping options: " ++ Text.joined ", " names
  | .notTypeNames option => "Option " ++ option ++ " must be a list of type names"
  | .notTypeTable option =>
    "Option " ++ option ++ " must map type names to type names"
  | .notText option kind =>
    "Option " ++ option ++ " must be a string, got " ++ kind
  | .unsupportedLanguage name supported =>
    "Unsupported language " ++ Text.quoted name ++ "; expected one of: " ++
      Text.joined ", " supported
  | .notDefinitions path => path ++ ": expected a JSON list of field definitions"
  | .missingKey key => Text.quoted key
  | .wrongKind => "a value of the wrong kind"
  | .notAName => "a type name that is no text"
  | .notAnObject => "options that are no object"
  | .malformed => "malformed JSON"
  | .undecodable => "a file that is not text"
  | .unencodable => "surrogates not allowed"
  | .longInteger digits limit =>
    "Exceeds the limit (" ++ Text.ofNat limit ++
      " digits) for integer string conversion: value has " ++ Text.ofNat digits ++
      " digits; use sys.set_int_max_str_digits() to increase the limit"
  | .missingFile => "no such file or directory"
  | .isDirectory => "is a directory"
  | .notDirectory => "not a directory"
  | .fileExists => "file exists"
  | .nameTooLong => "file name too long"
  | .embeddedNul => "embedded null byte"
  | .tooDeep => "too many directories to make"
  | .usage => "usage: CONFIG DEFINITIONS [-o OUTPUT]"
  | .help => "usage: CONFIG DEFINITIONS [-o OUTPUT]"

/-- The code the command ends with. -/
def exitCode : Fault → Nat
  | .usage => 2
  | .help => 0
  | _ => 1

end Fault

/-! ## Two steps -/

section

variable {α β : Type} {r : Except Fault α} {f : α → Except Fault β}

theorem exists_of_bind_eq_ok {b : β} (h : r.bind f = .ok b) : ∃ a, r = .ok a ∧ f a = .ok b := by
  cases r with
  | error fault => cases h
  | ok a => exact ⟨a, rfl, h⟩

theorem error_or_exists_of_bind_eq_error {fault : Fault} (h : r.bind f = .error fault) :
    r = .error fault ∨ ∃ a, r = .ok a ∧ f a = .error fault := by
  cases r with
  | error first => exact Or.inl (congrArg Except.error (Except.error.inj h))
  | ok a => exact Or.inr ⟨a, rfl, h⟩

end

end TargetTypes
