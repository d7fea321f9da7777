import TargetTypes.Fault
import TargetTypes.Language

/-!
# Targets

A language chosen by name, with the delegate that writes default and example values for it.
The delegate is kept and handed out as it came.
-/

namespace TargetTypes

/-- The language of that name, in any case. -/
def Language.named (name : Text) : Except Fault Language :=
  match Language.select? name with
  | some lang => .ok lang
  | none => .error (.unsupportedLanguage name (Language.all.map Language.label))

structure Target (δ : Type) where
  language : Language
  values : δ

def Target.named {δ : Type} (name : Text) (values : δ) : Except Fault (Target δ) :=
  (Language.named name).map fun language => ⟨language, values⟩

end TargetTypes
