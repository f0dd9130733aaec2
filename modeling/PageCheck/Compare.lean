import PageCheck.Failure
import PageCheck.Text.Find

/-!
Comparing the values found on a page with the expected ones. Order never matters.
-/
namespace PageCheck.Compare

def ordered (values : List String) : List String := values.mergeSort fun a b => decide (a ≤ b)

def equals (actual expected : List String) : Bool := ordered actual == ordered expected

def containsAll (actual expected : List String) : Bool := expected.all fun e => e ∈ actual

def containsNone (actual expected : List String) : Bool := !expected.any fun e => e ∈ actual

def likes (actual : List String) (expected : String) : Except Fault Bool :=
  match actual with
  | [] => .ok false
  | [value] => .ok (Text.occurs expected.toList value.toList)
  | many => .error (.manyValues many)

end PageCheck.Compare
