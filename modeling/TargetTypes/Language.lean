import TargetTypes.Lexicon
import TargetTypes.Text.Case

/-!
# Target languages

The two languages types are resolved for, and what is particular to each: its words, the list
types of another language that it takes as lists, and its annotations. A language is selected
by its name in any case.
-/

namespace TargetTypes

inductive Language where
  | java
  | scala
deriving DecidableEq, Repr

namespace Language

/-- In the order of their labels. -/
def all : List Language := [.java, .scala]

def label : Language → Text
  | .java => "java"
  | .scala => "scala"

/-- A primitive cannot be an argument of a generic here, so each has a reference type. -/
def javaBoxes : List (Text × Text) := [
  ("byte", "Byte"), ("short", "Short"), ("int", "Integer"), ("long", "Long"),
  ("float", "Float"), ("double", "Double"), ("char", "Character"), ("boolean", "Boolean")]

def javaLexicon : Lexicon where
  listMarker := "java.util.List"
  optionalMarker := "java.util.Optional"
  boundMarker := "? extends "
  brackets := ⟨"<", ">"⟩
  primitives := javaBoxes.map Prod.fst
  boxes := javaBoxes

def scalaLexicon : Lexicon where
  listMarker := "Seq"
  optionalMarker := "Option"
  boundMarker := "_ <: "
  listAliases := ["scala.Seq"]
  optionalAliases := ["scala.Option"]
  primitives := ["Byte", "Short", "Int", "Long", "Float", "Double", "Char", "Boolean"]

def lexicon : Language → Lexicon
  | .java => javaLexicon
  | .scala => scalaLexicon

/-- Beginnings of list types of another language, never wrapped as optional. -/
def foreignLists : Language → List Text
  | .java => []
  | .scala => ["java.util.List"]

def select? (name : Text) : Option Language := all.find? fun lang => lang.label == name.lower

/-- Points the model classes of a package at the generated resolver of their types. -/
def resolverAnnotation (lang : Language) (package : Text) : Text :=
  let resolver := package ++ "GraphqlJacksonTypeIdResolver"
  "com.fasterxml.jackson.databind.annotation.JsonTypeIdResolver(" ++
    match lang with
    | .java => resolver ++ ".class)"
    | .scala => "classOf[" ++ resolver ++ "])"

end Language

end TargetTypes
