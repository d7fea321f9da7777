import TargetTypes.Fault
import TargetTypes.Text.Digit

/-!
# Arguments of the command

    CONFIG DEFINITIONS [-o OUTPUT]

Options may stand anywhere before a lone `--`; behind it all are operands. A long option may be
cut short as long as it is the only one that begins so. An argument that looks like a negative
number or holds a space is an operand, unless it is an option. All arguments are sorted first;
then they are taken in order, and the first fault or call for help ends the command.

The conventions are those of argparse 3.11; other versions read some arguments otherwise. Here an
output attached as `--`, as in `--output=--`, is the same as none.
-/

namespace TargetTypes

/-- The two operands and the place for the output, of which the last one given counts. An
operand without a text names nothing. -/
structure Arguments where
  config : Option Text
  definitions : Option Text
  output : Option Text
deriving DecidableEq, Repr

namespace Arguments

/-! ## Algorithm -/

inductive Word where
  | operand (text : Text)
  | help
  /-- Help, if an operand follows for the option asked for behind it. -/
  | helpWithOperand
  | output (attached : Option Text)
  /-- An option with a text that it does not take. -/
  | broken
  | unknown
deriving DecidableEq, Repr

/-- Digits with at most one point, before the last digit; a line feed may follow. -/
def isNumber (text : Text) : Bool :=
  let body := if text.getLast? = some (.scalar '\n') then text.dropLast else text
  let rest := body.dropWhile Text.isDigit
  match rest with
  | [] => !body.isEmpty
  | .scalar '.' :: places => !places.isEmpty && places.all Text.isDigit
  | _ => false

/-- Letters behind a short `-h`: more options, the last one with its text. -/
def cluster : Text → Word
  | [] => .help
  | .scalar 'h' :: rest => cluster rest
  | [.scalar 'o'] => .helpWithOperand
  | .scalar 'o' :: _ => .help
  | _ => .broken

/-- An option in full, before and behind the first equals sign. -/
def long (name : Text) (attached : Option Text) : Except Fault (Option Word) :=
  match (name <+: "help" : Bool), (name <+: "output" : Bool) with
  | true, true => .error .usage
  | true, false => .ok (some (if attached.isSome then .broken else .help))
  | false, true => .ok (some (.output attached))
  | false, false => .ok none

def notOption (text : Text) : Word := if text.contains ' ' then .operand text else .unknown

def wordOf (text : Text) : Except Fault Word :=
  match text with
  | .scalar '-' :: .scalar '-' :: rest =>
    let name := rest.takeWhile (· ≠ .scalar '=')
    let attached := (rest.dropWhile (· ≠ .scalar '=')).tail?
    (long name attached).map fun word => word.getD (notOption text)
  | [.scalar '-'] => .ok (.operand text)
  | [.scalar '-', .scalar 'h', .scalar '='] => .ok .broken
  | .scalar '-' :: .scalar 'h' :: .scalar '=' :: rest => .ok (cluster rest)
  | .scalar '-' :: .scalar 'h' :: rest => .ok (cluster rest)
  | [.scalar '-', .scalar 'o'] => .ok (.output none)
  | .scalar '-' :: .scalar 'o' :: .scalar '=' :: rest => .ok (.output (some rest))
  | .scalar '-' :: .scalar 'o' :: rest => .ok (.output (some rest))
  | .scalar '-' :: rest => .ok (if isNumber rest then .operand text else notOption text)
  | _ => .ok (.operand text)

/-- What stands before the texts that are no options. -/
def separator : Text := "--"

/-- A separator that is given as a text names nothing. -/
def named (text : Text) : Option Text := if text = separator then none else some text

/-- What has been taken so far. `placed` if the last word was an operand that found its place. -/
structure Taken where
  operands : List (Option Text) := []
  output : Option Text := none
  surplus : Bool := false
  placed : Bool := false
deriving DecidableEq, Repr

def takeOperand (taken : Taken) (operand : Option Text) : Taken :=
  if taken.operands.length < 2 then
    { taken with operands := taken.operands ++ [operand], placed := true }
  else { taken with surplus := true, placed := false }

def takeWords (taken : Taken) : List Word → Except Fault Taken
  | [] => .ok taken
  | .operand text :: rest => takeWords (takeOperand taken (some text)) rest
  | .help :: _ => .error .help
  | .helpWithOperand :: .operand _ :: _ => .error .help
  | .helpWithOperand :: _ => .error .usage
  | .output (some text) :: rest =>
    takeWords { taken with output := named text, placed := false } rest
  | .output none :: .operand text :: rest =>
    takeWords { taken with output := some text, placed := false } rest
  | .output none :: _ => .error .usage
  | .broken :: _ => .error .usage
  | .unknown :: rest => takeWords { taken with surplus := true, placed := false } rest

/-- What stands behind the separator. The separator goes with an operand beside it: the one
before it if that found its place, else the one behind it, which then may itself be `--`. -/
def takeBehind (taken : Taken) (texts : List Text) : Taken :=
  let alone := taken.operands.length = 2 && !taken.placed
  let lone := { taken with surplus := taken.surplus || alone }
  match taken.placed, texts with
  | false, first :: rest => (rest.map named).foldl takeOperand (takeOperand lone (some first))
  | _, texts => (texts.map named).foldl takeOperand lone

def ofTaken (taken : Taken) : Except Fault Arguments :=
  match taken.surplus, taken.operands with
  | false, [config, definitions] => .ok ⟨config, definitions, taken.output⟩
  | _, _ => .error .usage

def read (texts : List Text) : Except Fault Arguments := do
  let words ← (texts.takeWhile (· ≠ separator)).mapM wordOf
  let taken ← takeWords {} words
  match texts.dropWhile (· ≠ separator) with
  | [] => ofTaken taken
  | _ :: rest => ofTaken (takeBehind taken rest)

end Arguments

end TargetTypes
