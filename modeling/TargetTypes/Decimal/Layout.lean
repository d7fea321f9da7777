import TargetTypes.Text
import TargetTypes.Decimal.Shortest

/-!
# Layout of decimals

Whether a decimal is written positionally or with an exponent hangs on the exponent of its
leading digit. A layout holds the decisions.
-/

namespace TargetTypes.Decimal

structure Layout where
  /-- From this leading exponent on, positionally. -/
  plainFrom : Int
  /-- Below this leading exponent, positionally. -/
  plainBelow : Int
  exponentWidth : Nat
  notANumber : Text
  infinity : Text

namespace Layout

def zeros (n : Nat) : Text := List.replicate n (.scalar '0')

/-- Digits with a point; at least one digit stands on either side of it. -/
def plain (digits : Text) (leading : Int) : Text :=
  if leading < 0 then "0." ++ zeros (-leading - 1).toNat ++ digits
  else
    let whole := leading.toNat + 1
    if digits.length ≤ whole then digits ++ zeros (whole - digits.length) ++ ".0"
    else digits.take whole ++ "." ++ digits.drop whole

/-- One digit, the others behind a point, and the exponent with its sign. -/
def scientific (layout : Layout) (digits : Text) (leading : Int) : Text :=
  let head := if digits.length ≤ 1 then digits else digits.take 1 ++ "." ++ digits.drop 1
  let power := Text.ofNat leading.natAbs
  head ++ (if leading < 0 then "e-" else "e+") ++
    zeros (layout.exponentWidth - power.length) ++ power

def size (layout : Layout) (d : Decimal) : Text :=
  let digits := Text.ofNat d.dropZeros.digits
  let leading := d.dropZeros.exponent + digits.length - 1
  if layout.plainFrom ≤ leading ∧ leading < layout.plainBelow then plain digits leading
  else layout.scientific digits leading

/-- Writes the value with the fewest digits that read back. -/
def write (layout : Layout) (x : Float) : Text :=
  let bits := x.toBits.toNat
  let sign : Text := if 0x8000000000000000 ≤ bits then "-" else []
  let rest := bits % 0x8000000000000000
  if x.isNaN then layout.notANumber
  else if x.isInf then sign ++ layout.infinity
  else if rest = 0 then sign ++ plain "0" 0
  else sign ++ layout.size (Binary.ofBits rest).shortest

end Layout

end TargetTypes.Decimal
