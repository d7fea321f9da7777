/-!
# The shortest decimal of a binary value

A finite value stands for all reals that round to it: from halfway to the value below to
halfway to the value above, the ends included if its mantissa is even. Among the decimals in
that interval with the fewest digits the nearest is taken, of two equally near ones the even.
-/

namespace TargetTypes

/-- The decimal `digits * 10 ^ exponent`. -/
structure Decimal where
  digits : Nat
  exponent : Int
deriving DecidableEq, Repr

/-- The value `mantissa * 2 ^ power`; `tight` if the value below is half as far as the one above. -/
structure Binary where
  mantissa : Nat
  power : Int
  tight : Bool
deriving DecidableEq, Repr

namespace Binary

/-- The size of a finite value given by its bits, whatever its sign. -/
def ofBits (bits : Nat) : Binary :=
  let fraction := bits % 0x10000000000000
  let level : Nat := bits / 0x10000000000000 % 0x800
  if level = 0 then ⟨fraction, -1074, false⟩
  else ⟨0x10000000000000 + fraction, (level : Int) - 1075, fraction == 0 && level != 1⟩

/-- Two weights that make `digits * 10 ^ exponent` and `quarters * 2 ^ (power - 2)` comparable. -/
def weights (x : Binary) (exponent : Int) : Nat × Nat :=
  (Nat.pow 10 exponent.toNat * Nat.pow 2 (2 - x.power).toNat,
    Nat.pow 2 (x.power - 2).toNat * Nat.pow 10 (-exponent).toNat)

/-- The decimal lies among the reals that round to the value. -/
def readsBack (x : Binary) (d : Decimal) : Bool :=
  let (p, q) := x.weights d.exponent
  let low := (4 * x.mantissa - (if x.tight then 1 else 2)) * q
  let high := (4 * x.mantissa + 2) * q
  if x.mantissa % 2 = 0 then low ≤ d.digits * p && d.digits * p ≤ high
  else low < d.digits * p && d.digits * p < high

/-- The better of the value's two neighbours on a grid of decimals, if one of them reads back. -/
def onGrid? (x : Binary) (exponent : Int) : Option Decimal :=
  let (p, q) := x.weights exponent
  let size := 4 * x.mantissa * q
  let below := size / p
  match x.readsBack ⟨below, exponent⟩, x.readsBack ⟨below + 1, exponent⟩ with
  | false, false => none
  | true, false => some ⟨below, exponent⟩
  | false, true => some ⟨below + 1, exponent⟩
  | true, true =>
    let middle := (2 * below + 1) * p
    if 2 * size < middle ∨ (2 * size = middle ∧ below % 2 = 0) then some ⟨below, exponent⟩
    else some ⟨below + 1, exponent⟩

/-- The exponent of the value's leading digit. -/
def leading (x : Binary) : Int :=
  let (p, q) := x.weights 0
  let size := 4 * x.mantissa * q
  if p ≤ size then (Nat.toDigits 10 (size / p)).length - 1
  else
    let places := (Nat.toDigits 10 (p / size)).length
    if p = size * Nat.pow 10 (places - 1) then 1 - places else -places

/-- The value itself, as a decimal. -/
def exact (x : Binary) : Decimal :=
  if 0 ≤ x.power then ⟨x.mantissa * Nat.pow 2 x.power.toNat, 0⟩
  else ⟨x.mantissa * Nat.pow 5 (-x.power).toNat, x.power⟩

/-- Tries grids of one digit, of two, and so on. -/
def shortest (x : Binary) : Decimal :=
  ((List.range 17).findSome? fun n : Nat => x.onGrid? (x.leading - n)).getD x.exact

end Binary

namespace Decimal

/-- Takes zeros at the end of the digits into the exponent, at most `fuel` of them. -/
def dropZerosWithin : (fuel : Nat) → Decimal → Decimal
  | 0, d => d
  | fuel + 1, d =>
    if d.digits ≠ 0 ∧ d.digits % 10 = 0 then
      dropZerosWithin fuel ⟨d.digits / 10, d.exponent + 1⟩
    else d

/-- A number has fewer zeros at its end than it has digits. -/
def dropZeros (d : Decimal) : Decimal := dropZerosWithin (Nat.toDigits 10 d.digits).length d

end Decimal

end TargetTypes
