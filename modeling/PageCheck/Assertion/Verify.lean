import PageCheck.Assertion.Expected
import PageCheck.Compare
import PageCheck.Extract
import PageCheck.Predicate
import PageCheck.Settings.Checking
import PageCheck.Wait

/-!
Verifying assertions. `Assertion.verify` polls until the demand is met or the time is up, and then
fails; `Assertion.holds` asks for a truth value: values are read once, elements are waited for, and
what goes wrong on the page counts as false.
-/
namespace PageCheck

structure ValueCheck where
  directive : String
  target : Target
  kind : Option ValueKind
  count : Option UInt64
  expected : List String
  test : List String → Except Fault Bool

namespace ValueCheck

def literals : List (Deferred String) → Except Failure (List String)
  | [] => .ok []
  | value :: rest => do
    let first ← value.get
    let others ← literals rest
    return first :: others

def relationTest (relation : Relation) (expected actual : List String) : Bool :=
  match relation with
  | .equals => Compare.equals actual expected
  | .notEquals => !Compare.equals actual expected
  | .checked | .selected => Compare.containsAll actual expected
  | .unchecked | .unselected => Compare.containsNone actual expected

def ofCriterion (predicates : Predicates) :
    Criterion → Except Failure (List String × (List String → Except Fault Bool))
  | .relates relation expected => do
    let values ← literals expected.toList
    return (values, fun actual => .ok (relationTest relation values actual))
  | .likes expected => do
    let value ← expected.get
    return ([value], fun actual => Compare.likes actual value)
  | .notLikes expected => do
    let value ← expected.get
    return ([value], fun actual => (Compare.likes actual value).map not)
  | .satisfies name =>
    match predicates.get? name with
    | some predicate => .ok ([name], fun actual => .ok (predicate actual))
    | none => .error (.scenario (.unknownPredicate name))

def ofComparison (predicates : Predicates) (c : Comparison) : Except Failure ValueCheck := do
  let (expected, test) ← ofCriterion predicates c.criterion
  return { directive := c.criterion.directive, target := c.target, kind := c.kind,
           count := c.count, expected, test }

def miscounted (check : ValueCheck) (found : Extracted) : Bool :=
  check.count.any fun count => count.toNat ≠ found.matched

def holds (check : ValueCheck) (found : Extracted) : Except Failure Bool :=
  if check.miscounted found then .ok false
  else (check.test found.values).mapError .scenario

def countNote (matched : Nat) (expected : UInt64) : String :=
  " (" ++ toString matched ++ " elements, expected " ++ toString expected.toNat ++ ")"

def mismatch (check : ValueCheck) (found : Extracted) : Mismatch :=
  { directive := check.directive
    target := check.target.describe
    kind := found.reading.label ++
      (match check.count with
      | some count => if count.toNat ≠ found.matched then countNote found.matched count else ""
      | none => "")
    expected := check.expected
    actual := found.values }

variable {σ E : Type} [Host σ E]

def sample (check : ValueCheck) : Check σ (Option Extracted) :=
  tryCatch (Extract.fromTarget check.target check.kind) fun failure =>
    match failure with
    | .host e => if e.isTransient then return none else throw failure
    | _ => throw failure

def look (check : ValueCheck) : Check σ (Attempt Unit (Option Extracted)) := do
  match ← check.sample with
  | none => return .again none
  | some found =>
    if ← Check.ofExcept (check.holds found) then return .done () else return .again (some found)

def verify (check : ValueCheck) (poller : Poller) : Check σ Unit := do
  match ← poller.run check.look with
  | .ready () => return ()
  | .timedOut (some found) =>
    Check.emit (.valueTimedOut check.directive)
    throw (.mismatch (check.mismatch found))
  | .timedOut none =>
    throw (.noSuchElement check.directive check.target.describe poller.timeout)

def holdsNow (check : ValueCheck) : Check σ Bool := do
  match ← check.sample with
  | some found => Check.ofExcept (check.holds found)
  | none => return false

end ValueCheck

namespace Assertion

variable {σ E : Type} [Host σ E]

def poller (settings : CheckSettings) (a : Assertion) : Poller :=
  { timeout := a.timeout.getD settings.timeout, interval := settings.interval }

def await (presence : Presence) (poller : Poller) : Check σ (Polled (List E) Nat) := do
  let locator ← Check.ofExcept presence.target.get
  Wait.elements locator presence.count poller

def verifyPresent (presence : Presence) (poller : Poller) : Check σ Unit := do
  let locator ← Check.ofExcept presence.target.get
  match ← Wait.elements locator presence.count poller with
  | .ready _ => return ()
  | .timedOut matched =>
    let note := match presence.count with
      | some count => if 0 < matched then ValueCheck.countNote matched count else ""
      | none => ""
    throw (.noSuchElement "exists" (locator.display ++ note) poller.timeout)

def verifyAbsent (presence : Presence) (poller : Poller) : Check σ Unit := do
  let locator ← Check.ofExcept presence.target.get
  match ← Wait.absence locator poller with
  | .ready () => return ()
  | .timedOut _ => throw (.elementExists "notExists" locator.display poller.timeout)

def verify (settings : CheckSettings) (predicates : Predicates) (a : Assertion) :
    Check σ Unit := do
  Check.emit (.verifying a.directive)
  match a.demand with
  | .present presence => verifyPresent presence (a.poller settings)
  | .absent presence => verifyAbsent presence (a.poller settings)
  | .compare comparison =>
    let check ← Check.ofExcept (ValueCheck.ofComparison predicates comparison)
    check.verify (a.poller settings)

def located (presence : Presence) (poller : Poller) : Check σ Bool := do
  match ← await presence poller with
  | .ready _ => return true
  | .timedOut _ => return false

def leniently (directive : String) (question : Check σ Bool) : Check σ Bool :=
  tryCatch question fun failure => do
    if failure.isConfiguration then throw failure
    Check.emit (.guardFailed directive failure.message)
    return false

def holds (settings : CheckSettings) (predicates : Predicates) (a : Assertion) :
    Check σ Bool :=
  match a.demand with
  | .present presence => leniently a.directive (located presence (a.poller settings))
  | .absent presence => leniently a.directive (not <$> located presence (a.poller settings))
  | .compare comparison => do
    let check ← Check.ofExcept (ValueCheck.ofComparison predicates comparison)
    leniently a.directive check.holdsNow

end Assertion

end PageCheck
