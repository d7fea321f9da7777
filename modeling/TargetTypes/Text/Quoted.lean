import TargetTypes.Text
import TargetTypes.Text.Printable

/-!
# Quoted text

Single quotes, but double ones around a text that holds single quotes and no double ones. A
backslash and the quote in use take a backslash; line feed, tab and carriage return have short
forms; any other code point that is not printable, such as a surrogate, is written by its number in
two, four or eight hexadecimal digits.
-/

namespace TargetTypes.Text

/-- The lowest `width` hexadecimal digits of a number. -/
def hex : (width : Nat) → (n : Nat) → Text
  | 0, _ => []
  | width + 1, n => hex width (n / 16) ++ [.scalar (Nat.digitChar (n % 16))]

def escaped (quote c : CodePoint) : Text :=
  if c = quote ∨ c = '\\' then ['\\', c]
  else if c = '\n' then "\\n"
  else if c = '\t' then "\\t"
  else if c = '\r' then "\\r"
  else if isPrintable c then [c]
  else if c.toNat < 0x100 then "\\x" ++ hex 2 c.toNat
  else if c.toNat < 0x10000 then "\\u" ++ hex 4 c.toNat
  else "\\U" ++ hex 8 c.toNat

/-- The quote that needs the fewest backslashes, the single one if in doubt. -/
def quoteFor (text : Text) : CodePoint :=
  if text.contains '\x27' && !text.contains '"' then '"' else '\x27'

def quoted (text : Text) : Text :=
  quoteFor text :: text.flatMap (escaped (quoteFor text)) ++ [quoteFor text]

end TargetTypes.Text
