import TargetTypes.Text

/-!
# Type expressions

What a type name of the target language says: a primitive, any other name, a list, an
optional, or a bound on a supertype. A list or optional remembers the marker it was written
with where that is not the language's own.
-/

namespace TargetTypes

inductive TypeExpr where
  | primitive (name : Text)
  | named (name : Text)
  | optional (inner : TypeExpr) (marker : Option Text)
  | list (inner : TypeExpr) (marker : Option Text)
  | bounded (inner : TypeExpr)
deriving DecidableEq, Repr

namespace TypeExpr

def isList : TypeExpr → Bool
  | .list .. => true
  | _ => false

def isOptional : TypeExpr → Bool
  | .optional .. => true
  | _ => false

/-- What a list or an optional holds. -/
def element? : TypeExpr → Option TypeExpr
  | .list inner _ => some inner
  | .optional inner _ => some inner
  | _ => none

/-- How many lists, optionals and bounds stand around the innermost name. -/
def depth : TypeExpr → Nat
  | .primitive _ => 0
  | .named _ => 0
  | .optional inner _ => inner.depth + 1
  | .list inner _ => inner.depth + 1
  | .bounded inner => inner.depth + 1

end TypeExpr

end TargetTypes
