/-!
# Code points

A text is made of scalar values and of surrogates that stand alone. A surrogate comes from an
escape that is half a pair, or from a file name whose bytes are not all UTF-8: each byte that does
not fit is taken in as one of U+DC80 to U+DCFF. No file can hold a surrogate, and no file name but
those.

    a code point is told by its number                                          (toNat_inj)
-/

namespace TargetTypes

inductive CodePoint where
  | scalar (c : Char)
  /-- A surrogate, counted from U+D800. -/
  | surrogate (offset : Fin 0x800)
deriving DecidableEq, Repr

instance : Coe Char CodePoint := ⟨.scalar⟩

namespace CodePoint

/-! ## Algorithm -/

def toNat : CodePoint → Nat
  | .scalar c => c.toNat
  | .surrogate offset => 0xD800 + offset

/-- The code point of that number; a number beyond all of them has none of its own. -/
def ofNat (n : Nat) : CodePoint :=
  if h : 0xD800 ≤ n ∧ n < 0xE000 then .surrogate ⟨n - 0xD800, by omega⟩ else .scalar (Char.ofNat n)

def scalar? : CodePoint → Option Char
  | .scalar c => some c
  | .surrogate _ => none

/-- A file name can have it. -/
def isNameable : CodePoint → Bool
  | .scalar _ => true
  | .surrogate offset => 0x480 ≤ offset && offset < 0x500

/-- How it is spelled in a file name: a scalar value in UTF-8, a surrogate by the byte it stands
for. -/
def bytes : CodePoint → List UInt8
  | .scalar c => String.utf8EncodeChar c
  | .surrogate offset => [UInt8.ofNat (offset - 0x400)]

/-! ## Lemmas -/

/-- A character is never numbered as a surrogate. -/
theorem toNat_lt_or_lt (c : Char) : c.toNat < 0xD800 ∨ 0xE000 ≤ c.toNat := by
  have hvalid : c.toNat < 0xD800 ∨ (0xDFFF < c.toNat ∧ c.toNat < 0x110000) := c.valid
  omega

theorem toNat_inj {a b : CodePoint} : a.toNat = b.toNat ↔ a = b := by
  have hapart : ∀ (c : Char) (offset : Fin 0x800), c.toNat ≠ 0xD800 + offset := by
    intro c offset h
    have := toNat_lt_or_lt c
    have := offset.isLt
    omega
  cases a with
  | scalar c =>
    cases b with
    | scalar d => simp [toNat, Char.toNat_inj]
    | surrogate n => simp [toNat, hapart c n]
  | surrogate m =>
    cases b with
    | scalar d => simp [toNat, (hapart d m).symm]
    | surrogate n => simp [toNat, Fin.ext_iff]

end CodePoint

end TargetTypes
