import TargetTypes.Text

/-!
# Operations

What a field can be the direct return of.
-/

namespace TargetTypes

inductive Operation where
  | query
  | mutation
  | subscription
deriving DecidableEq, Repr

namespace Operation

def all : List Operation := [.query, .mutation, .subscription]

def label : Operation → Text
  | .query => "QUERY"
  | .mutation => "MUTATION"
  | .subscription => "SUBSCRIPTION"

end Operation

end TargetTypes
