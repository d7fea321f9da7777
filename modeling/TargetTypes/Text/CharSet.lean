/-!
# Sets of characters

A set is written as the ascending list of the code points where it begins and ends, in turn:
`[9, 14, 28, 33]` holds 9 to 13 and 28 to 32.
-/

namespace TargetTypes.CharSet

/-- Before the first bound nothing is in; each bound turns the rest over. -/
def within : List Nat → Nat → Bool
  | [], _ => false
  | bound :: rest, n => if n < bound then false else !within rest n

end TargetTypes.CharSet
