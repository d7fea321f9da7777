import TargetTypes.Lexicon
import TargetTypes.TypeExpr

/-!
# Writing a type expression

A name is written as it is, but a primitive inside a list, an optional or a bound is written
as its reference type. A list or optional without a marker of its own, or with an empty one,
takes the language's.
-/

namespace TargetTypes.TypeExpr

/-- The marker a list or optional is written with. -/
def writtenMarker (own : Text) : Option Text → Text
  | none => own
  | some [] => own
  | some marker => marker

/-- Writes the expression; `inGeneric` says whether something stands around it. -/
def renderIn (lex : Lexicon) (inGeneric : Bool) : TypeExpr → Text
  | .primitive name => if inGeneric then lex.box name else name
  | .named name => name
  | .bounded inner => lex.boundMarker ++ renderIn lex true inner
  | .list inner marker =>
    lex.generic (writtenMarker lex.listMarker marker) (renderIn lex true inner)
  | .optional inner marker =>
    lex.generic (writtenMarker lex.optionalMarker marker) (renderIn lex true inner)

def render (lex : Lexicon) (type : TypeExpr) : Text := renderIn lex false type

/-- The expression written as the argument of a generic. -/
def renderArgument (lex : Lexicon) (type : TypeExpr) : Text := renderIn lex true type

end TargetTypes.TypeExpr
