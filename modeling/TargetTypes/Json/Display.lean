import TargetTypes.Json
import TargetTypes.Text.Quoted
import TargetTypes.Decimal.Layout

/-!
# Values as text

How a value that is no text is shown in a type name or in the preview. A text is shown as it
is, but inside a list or an object it is quoted.
-/

namespace TargetTypes.Json

/-- Decimals keep a point or an exponent; from `1e+16` on and below `0.0001` it is an exponent. -/
def decimalLayout : Decimal.Layout where
  plainFrom := -4
  plainBelow := 16
  exponentWidth := 2
  notANumber := "nan"
  infinity := "inf"

mutual

/-- A value inside another one. -/
def inner : Json → Text
  | .null => "None"
  | .bool true => "True"
  | .bool false => "False"
  | .int n => Text.ofInt n
  | .float x => decimalLayout.write x
  | .str s => Text.quoted s
  | .arr items => "[" ++ innerItems items ++ "]"
  | .obj entries => "\x7b" ++ innerEntries entries ++ "\x7d"

def innerItems : List Json → Text
  | [] => []
  | [item] => inner item
  | item :: rest => inner item ++ ", " ++ innerItems rest

def innerEntries : List (Text × Json) → Text
  | [] => []
  | [(key, value)] => Text.quoted key ++ ": " ++ inner value
  | (key, value) :: rest =>
    Text.quoted key ++ ": " ++ inner value ++ ", " ++ innerEntries rest

end

def display : Json → Text
  | .str s => s
  | value => inner value

end TargetTypes.Json
