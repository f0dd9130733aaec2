import PageCheck.Assertion

/-!
Guards: what has to hold for the rest of a list of steps to be run. A guard is a conjunction of
groups, and a group a disjunction of conditions.
-/
namespace PageCheck

inductive Condition where
  | flag (value : Deferred Bool)
  | assertion (assertion : Assertion)
  deriving DecidableEq, Repr, Inhabited

/-- All groups have to hold; of a group, one condition. -/
abbrev Guard := List (List Condition)

namespace Condition

def resolve (m : Mapping) : Condition → Except Failure Condition
  | flag value => do return flag (← value.resolve m)
  | assertion a => do return assertion (← a.resolve m)

def toJson : Condition → Json
  | flag value => Json.canonical (.record [("bool", value.toJson)])
  | assertion a => a.toJson

end Condition

namespace Guard

def resolve (m : Mapping) (g : Guard) : Except Failure Guard :=
  resolveItems (resolveItems (Condition.resolve m)) g

def toJson (g : Guard) : Json := .list (g.map fun group => .list (group.map Condition.toJson))

end Guard

end PageCheck
