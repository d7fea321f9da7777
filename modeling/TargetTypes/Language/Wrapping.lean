import TargetTypes.Language
import TargetTypes.TypeExpr.Parse
import TargetTypes.TypeExpr.Render

/-!
# Wrapping names

Names of a target language are told apart by reading them, and wrapped by writing them into a
generic. A primitive is boxed on its way in where the language asks for it.
-/

namespace TargetTypes.Language

def parse (lang : Language) (name : Text) : TypeExpr := TypeExpr.parse lang.lexicon name

def render (lang : Language) (type : TypeExpr) : Text := type.render lang.lexicon

def isPrimitive (lang : Language) (name : Text) : Bool := lang.lexicon.primitives.contains name

/-- A list of the language, or a name that begins as a list of another one. -/
def isCollection (lang : Language) (name : Text) : Bool :=
  (lang.parse name).isList || lang.foreignLists.any fun start => start.isPrefixOf name

def isOptional (lang : Language) (name : Text) : Bool := (lang.parse name).isOptional

/-- The argument of a list or an optional; any other name stays as it is. -/
def element (lang : Language) (name : Text) : Text :=
  match (lang.parse name).element? with
  | some inner => lang.render inner
  | none => name

/-- A generic, a name or a template, with its argument. -/
def generic (lang : Language) (outer argument : Text) : Text :=
  lang.lexicon.generic outer (lang.lexicon.box argument)

def listOf (lang : Language) (name : Text) : Text := lang.generic lang.lexicon.listMarker name

/-- A list of a type or any type below it. -/
def listOfSubtypes (lang : Language) (name : Text) : Text :=
  lang.generic lang.lexicon.listMarker (lang.lexicon.boundMarker ++ lang.lexicon.box name)

def optionalOf (lang : Language) (name : Text) : Text :=
  lang.generic lang.lexicon.optionalMarker name

end TargetTypes.Language
