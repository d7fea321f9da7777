import TargetTypes.Text

/-!
# JSON values

Whole numbers and decimals are told apart, whole numbers have no bound, and an object keeps
its entries in written order.
-/

namespace TargetTypes

inductive Json where
  | null
  | bool (value : Bool)
  | int (value : Int)
  | float (value : Float)
  | str (value : Text)
  | arr (items : List Json)
  | obj (entries : List (Text × Json))

namespace Json

instance : Inhabited Json := ⟨.null⟩

/-- Nothing, zero and what is empty count as false; all else, a NaN too, as true. -/
def truthy : Json → Bool
  | .null => false
  | .bool value => value
  | .int value => value != 0
  | .float value => value != 0.0
  | .str value => !value.isEmpty
  | .arr items => !items.isEmpty
  | .obj entries => !entries.isEmpty

/-- The entry of that key; none where the value is no object. -/
def get? (key : Text) : Json → Option Json
  | .obj entries => entries.lookup key
  | _ => none

/-- The entry of that key, a missing one being null. -/
def getD (key : Text) (value : Json) : Json := (value.get? key).getD .null

/-- Sets a key among the entries: a new one goes to the end, an old one keeps its place. -/
def put (key : Text) (value : Json) : List (Text × Json) → List (Text × Json)
  | [] => [(key, value)]
  | (k, v) :: rest => if k = key then (k, value) :: rest else (k, v) :: put key value rest

end Json

end TargetTypes
