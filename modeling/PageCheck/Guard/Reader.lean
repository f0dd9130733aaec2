import PageCheck.Guard
import PageCheck.Assertion.Reader

/-!
Reading conditions: a map with the key `bool` is a truth value and has no other key, any other map
is an assertion.
-/
namespace PageCheck

namespace Condition

def ofFields (fields : Fields) : Except Fault Condition :=
  match fields.get? "bool" with
  | some written =>
    match fields.erase "bool" with
    | (key, _) :: _ => .error (.unsupported key "bool")
    | [] => ((Shape.deferred written).mapError (.misfit "bool")).map flag
  | none => (Assertion.ofFields fields).map assertion

end Condition

end PageCheck
