import TargetTypes.Text
import TargetTypes.Text.CharSet
import TargetTypes.Text.CaseTable

/-!
# Upper and lower case

Full Unicode mappings: one character may become several, and a character without another case
stays. A capital sigma becomes the final small one where a letter stands before it and none
after it, characters that are passed over aside.
-/

namespace TargetTypes.Text

/-- Where the runs send a code point; runs behind it need no look. -/
def image? : List CaseRun → Nat → Option Nat
  | [], _ => none
  | (first, last, step, image) :: rest, n =>
    if n < first then none
    else if n ≤ last then
      if (n - first) % step = 0 then some (image + (n - first)) else none
    else image? rest n

/-- The other case of one code point; a surrogate has none. -/
def recase (runs : List CaseRun) (expansions : List (Nat × List Nat)) (c : CodePoint) : Text :=
  match image? runs c.toNat with
  | some n => [CodePoint.ofNat n]
  | none =>
    match expansions.lookup c.toNat with
    | some ns => ns.map CodePoint.ofNat
    | none => [c]

def upperChar (c : CodePoint) : Text := recase upperRuns upperExpansions c

def lowerChar (c : CodePoint) : Text := recase lowerRuns lowerExpansions c

def upper (text : Text) : Text := text.flatMap upperChar

def isCased (c : CodePoint) : Bool := CharSet.within casedBounds c.toNat

def isIgnorable (c : CodePoint) : Bool := CharSet.within ignorableBounds c.toNat

/-- No letter follows, characters that are passed over aside. -/
def endsWord : Text → Bool
  | [] => true
  | c :: rest => if isIgnorable c then endsWord rest else !isCased c

/-- Lower case of what follows; `inWord` says whether a letter stands before it. -/
def lowerFrom (inWord : Bool) : Text → Text
  | [] => []
  | c :: rest =>
    let small : Text :=
      if c = 'Σ' then (if inWord && endsWord rest then "ς" else "σ") else lowerChar c
    small ++ lowerFrom (if isIgnorable c then inWord else isCased c) rest

def lower (text : Text) : Text := lowerFrom false text

end TargetTypes.Text
