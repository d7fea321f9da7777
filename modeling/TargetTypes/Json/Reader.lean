import TargetTypes.Fault
import TargetTypes.Json

/-!
# Reading JSON text

A plain text is cut into tokens, and the tokens are read by the grammar. A run of letters, digits,
signs and points is one token: a number or one of the words `null`, `true`, `false`, `NaN`,
`Infinity` and `-Infinity`. Of a repeated key the first place and the last value count.

The escapes of two surrogates that make a pair are one character. The escape of a surrogate without
its other half is read as the surrogate, so a text may be read that is not plain.

Integers have a limit on their digits. One beyond it is a fault of its own wherever a value may
stand, but the text before it has to be well formed, for the first fault in the text counts.

    the grammar takes tokens away whenever it reads a value      (the subtypes of `readValue`)
    a text is read whole or not at all                                                (`read`)
-/

namespace TargetTypes.Json

/-! ## Algorithm -/

inductive Token where
  | leaf (value : Json)
  /-- An integer of more digits than are read. -/
  | longInteger (digits : Nat)
  /-- Text that no token begins with. -/
  | broken
  | openList
  | closeList
  | openObject
  | closeObject
  | comma
  | colon

def isSpace (c : Char) : Bool := c = ' ' || c = '\t' || c = '\n' || c = '\r'

/-- A character of a number or a word. -/
def isBare (c : Char) : Bool := c.isAlphanum || c = '+' || c = '-' || c = '.'

def digitsValue (digits : Plain) : Nat :=
  digits.foldl (fun n c => 10 * n + (c.toNat - '0'.toNat)) 0

/-- The most digits of an integer. -/
def digitLimit : Nat := 4300

/-- The decimal nearest to `mantissa * 10 ^ exponent`. -/
def decimal (negative : Bool) (mantissa : Nat) (exponent : Int) : Json :=
  let size := Float.ofScientific mantissa (exponent < 0) exponent.natAbs
  .float (if negative then -size else size)

/-- The places behind a point, and the rest. A point without places is rest. -/
def fraction (s : Plain) : Plain × Plain :=
  match s with
  | '.' :: rest =>
    let places := rest.takeWhile Char.isDigit
    if places = [] then ([], s) else (places, rest.dropWhile Char.isDigit)
  | _ => ([], s)

/-- A sign and the digits behind it. -/
def signed : Plain → Bool × Plain
  | '-' :: rest => (true, rest)
  | '+' :: rest => (false, rest)
  | rest => (false, rest)

/-- The exponent behind its letter, and the rest. A letter without digits is rest. -/
def power (s : Plain) : Option Int × Plain :=
  match s with
  | [] => (none, [])
  | c :: rest =>
    let (negative, digits) := signed rest
    let size := digits.takeWhile Char.isDigit
    if (c = 'e' ∨ c = 'E') ∧ size ≠ [] then
      (some (if negative then -digitsValue size else digitsValue size),
        digits.dropWhile Char.isDigit)
    else (none, s)

/-- An integer by its digits, with what follows it. That it is too long shows first. -/
def integer (negative : Bool) (whole rest : Plain) : Token :=
  if digitLimit < whole.length then .longInteger whole.length
  else if rest = [] then
    .leaf (.int (if negative then -digitsValue whole else digitsValue whole))
  else .broken

/-- A number without its sign. The whole part has no leading zero. -/
def unsigned (negative : Bool) (word : Plain) : Token :=
  let whole := word.takeWhile Char.isDigit
  let (places, behind) := fraction (word.dropWhile Char.isDigit)
  let (exponent, rest) := power behind
  if whole = [] ∨ (whole.head? = some '0' ∧ whole.length ≠ 1) then .broken
  else if places = [] ∧ exponent = none then integer negative whole rest
  else if rest = [] then
    .leaf (decimal negative (digitsValue (whole ++ places)) (exponent.getD 0 - places.length))
  else .broken

def number : Plain → Token
  | '-' :: word => unsigned true word
  | word => unsigned false word

def bare (word : Plain) : Token :=
  if word = "null" then .leaf .null
  else if word = "true" then .leaf (.bool true)
  else if word = "false" then .leaf (.bool false)
  else if word = "NaN" then .leaf (.float (0.0 / 0.0))
  else if word = "Infinity" then .leaf (.float (1.0 / 0.0))
  else if word = "-Infinity" then .leaf (.float (-1.0 / 0.0))
  else number word

def hexDigit? (c : Char) : Option Nat :=
  if c.isDigit then some (c.toNat - '0'.toNat)
  else if 'a' ≤ c ∧ c ≤ 'f' then some (c.toNat - 'a'.toNat + 10)
  else if 'A' ≤ c ∧ c ≤ 'F' then some (c.toNat - 'A'.toNat + 10)
  else none

def hexUnit? (a b c d : Char) : Option Nat := do
  return (((← hexDigit? a) * 16 + (← hexDigit? b)) * 16 + (← hexDigit? c)) * 16 + (← hexDigit? d)

/-- The character that two halves of a pair stand for. -/
def pairChar (high low : Nat) : Char :=
  Char.ofNat (0x10000 + (high - 0xD800) * 0x400 + (low - 0xDC00))

/-- The second half of a pair, where its escape comes first. -/
def lowHalf? : (s : Plain) → Option (Nat × { r : Plain // r.length ≤ s.length })
  | '\\' :: 'u' :: a :: b :: c :: d :: rest =>
    match hexUnit? a b c d with
    | some low =>
      if 0xDC00 ≤ low ∧ low < 0xE000 then
        some (low, ⟨rest, by simp only [List.length_cons]; omega⟩)
      else none
    | none => none
  | _ => none

/-- The code point of a unit: half a pair with its other half behind it is one character, and any
other unit stands for itself. -/
def unitPoint (unit : Nat) (rest : Plain) : CodePoint × { r : Plain // r.length ≤ rest.length } :=
  if 0xD800 ≤ unit ∧ unit < 0xDC00 then
    match lowHalf? rest with
    | some (low, r) => (pairChar unit low, r)
    | none => (CodePoint.ofNat unit, ⟨rest, Nat.le_refl _⟩)
  else (CodePoint.ofNat unit, ⟨rest, Nat.le_refl _⟩)

/-- The code point a backslash introduces. -/
def escape? : (s : Plain) → Option (CodePoint × { r : Plain // r.length < s.length })
  | 'u' :: a :: b :: c :: d :: rest =>
    match hexUnit? a b c d with
    | some unit =>
      let (x, r) := unitPoint unit rest
      some (x, ⟨r.1, by have := r.2; simp only [List.length_cons]; omega⟩)
    | none => none
  | c :: rest =>
    let simple (x : Char) : Option (CodePoint × { r : Plain // r.length < (c :: rest).length }) :=
      some (x, ⟨rest, by simp⟩)
    match c with
    | '"' => simple '"'
    | '\\' => simple '\\'
    | '/' => simple '/'
    | 'b' => simple '\x08'
    | 'f' => simple '\x0c'
    | 'n' => simple '\n'
    | 'r' => simple '\r'
    | 't' => simple '\t'
    | _ => none
  | [] => none

/-- A quoted text after its opening quote, up to the closing one. -/
def quoted? (s : Plain) : Option (Text × { r : Plain // r.length < s.length }) :=
  match s with
  | [] => none
  | '"' :: rest => some ([], ⟨rest, by simp⟩)
  | '\\' :: rest =>
    match escape? rest with
    | some (c, ⟨r, hr⟩) =>
      (quoted? r).map fun (text, more) =>
        (c :: text, ⟨more.1, by have := more.2; simp only [List.length_cons]; omega⟩)
    | none => none
  | c :: rest =>
    if c.toNat < 0x20 then none
    else
      (quoted? rest).map fun (text, more) =>
        (.scalar c :: text, ⟨more.1, by have := more.2; simp only [List.length_cons]; omega⟩)
termination_by s.length
decreasing_by
  · simp only [List.length_cons]; omega
  · simp

def mark? : Char → Option Token
  | '[' => some .openList
  | ']' => some .closeList
  | '\x7b' => some .openObject
  | '\x7d' => some .closeObject
  | ',' => some .comma
  | ':' => some .colon
  | _ => none

theorem length_dropWhile_le (p : Char → Bool) (s : Plain) :
    (s.dropWhile p).length ≤ s.length :=
  (List.dropWhile_suffix p).length_le

/-- The tokens of a text, in order, up to the first place where none begins. -/
def tokens (s : Plain) : List Token :=
  match s with
  | [] => []
  | c :: rest =>
    if isSpace c then tokens rest
    else if c = '"' then
      match quoted? rest with
      | some (text, ⟨r, _⟩) => .leaf (.str text) :: tokens r
      | none => [.broken]
    else if isBare c then
      bare (c :: rest.takeWhile isBare) :: tokens (rest.dropWhile isBare)
    else
      match mark? c with
      | some token => token :: tokens rest
      | none => [.broken]
termination_by s.length
decreasing_by
  · simp
  · simp only [List.length_cons]; omega
  · have := length_dropWhile_le isBare rest
    simp only [List.length_cons]; omega
  · simp

mutual

/-- Reads one value; the tokens left are fewer. -/
def readValue (ts : List Token) :
    Except Fault (Json × { r : List Token // r.length < ts.length }) :=
  match ts with
  | .leaf value :: r => .ok (value, ⟨r, by simp⟩)
  | .longInteger digits :: _ => .error (.longInteger digits digitLimit)
  | .openList :: .closeList :: r => .ok (.arr [], ⟨r, by simp only [List.length_cons]; omega⟩)
  | .openList :: r =>
    match readItems r with
    | .ok (items, ⟨more, hm⟩) =>
      .ok (.arr items, ⟨more, by simp only [List.length_cons]; omega⟩)
    | .error fault => .error fault
  | .openObject :: .closeObject :: r =>
    .ok (.obj [], ⟨r, by simp only [List.length_cons]; omega⟩)
  | .openObject :: r =>
    match readEntries r with
    | .ok (entries, ⟨more, hm⟩) =>
      .ok (.obj (entries.foldl (fun seen e => put e.1 e.2 seen) []),
        ⟨more, by simp only [List.length_cons]; omega⟩)
    | .error fault => .error fault
  | _ => .error .malformed
termination_by 2 * ts.length
decreasing_by all_goals (simp only [List.length_cons]; omega)

/-- Reads the items of a list up to its end. -/
def readItems (ts : List Token) :
    Except Fault (List Json × { r : List Token // r.length < ts.length }) :=
  match readValue ts with
  | .ok (value, ⟨.closeList :: r, h⟩) =>
    .ok ([value], ⟨r, by simp only [List.length_cons] at h; omega⟩)
  | .ok (value, ⟨.comma :: r, h⟩) =>
    match readItems r with
    | .ok (items, ⟨more, hm⟩) =>
      .ok (value :: items, ⟨more, by simp only [List.length_cons] at h; omega⟩)
    | .error fault => .error fault
  | .ok _ => .error .malformed
  | .error fault => .error fault
termination_by 2 * ts.length + 1
decreasing_by
  · omega
  · simp only [List.length_cons] at h; omega

/-- Reads the entries of an object up to its end. -/
def readEntries (ts : List Token) :
    Except Fault (List (Text × Json) × { r : List Token // r.length < ts.length }) :=
  match ts with
  | .leaf (.str key) :: .colon :: rest =>
    match readValue rest with
    | .ok (value, ⟨.closeObject :: r, h⟩) =>
      .ok ([(key, value)], ⟨r, by simp only [List.length_cons] at h ⊢; omega⟩)
    | .ok (value, ⟨.comma :: r, h⟩) =>
      match readEntries r with
      | .ok (entries, ⟨more, hm⟩) =>
        .ok ((key, value) :: entries, ⟨more, by simp only [List.length_cons] at h ⊢; omega⟩)
      | .error fault => .error fault
    | .ok _ => .error .malformed
    | .error fault => .error fault
  | _ => .error .malformed
termination_by 2 * ts.length + 1
decreasing_by
  · simp only [List.length_cons]; omega
  · simp only [List.length_cons] at h ⊢; omega

end

/-- The value a text spells. -/
def read (text : Plain) : Except Fault Json :=
  match readValue (tokens text) with
  | .ok (value, ⟨[], _⟩) => .ok value
  | .ok _ => .error .malformed
  | .error fault => .error fault

end TargetTypes.Json
