import PageCheck.Assertion
import PageCheck.Directive

/-!
Reading the expected values of a directive, which are written as one value or as a list, but not as
both.
-/
namespace PageCheck

def Expected.ofDirective (d : Directive) : Except Fault Expected := do
  let value ← d.modifier? "value" Shape.deferred
  let values ← d.modifier? "values" Shape.deferredList
  match value, values with
  | some value, none => return .one value
  | none, some values => return .many values
  | some _, some _ => throw (.bothValues d.name)
  | none, none => throw (.noValues d.name)

def Expected.toList : Expected → List (Deferred String)
  | .one value => [value]
  | .many values => values

end PageCheck
