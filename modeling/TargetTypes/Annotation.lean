import TargetTypes.Language
import TargetTypes.Options

/-!
# Annotations

What a field carries beside its type: a mandatory one that is no primitive must not be null,
and an enum names its generated companion class.
-/

namespace TargetTypes

/-- Mandatory model fields that are no primitives carry this. -/
def notNull : Text := "javax.validation.constraints.NotNull"

namespace Language

/-- The companion of an enum type, in the package of the model classes. -/
def enumAnnotations (lang : Language) (opts : Options) (typeName : Text) : List Text :=
  match lang with
  | .java => []
  | .scala =>
    let className := opts.className typeName
    if opts.enums.contains className then
      let package :=
        match Text.inForce? opts.classPackage with
        | some package => package ++ "."
        | none => []
      ["com.fasterxml.jackson.module.scala.JsonScalaEnumeration(classOf[" ++ package ++
        className ++ "TypeRefer])"]
    else []

end Language

end TargetTypes
