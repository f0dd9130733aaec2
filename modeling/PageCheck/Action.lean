import PageCheck.Deferred

/-!
Actions: what a step does to the page. An action is one deed, and the time to wait for its target
when the scenario gives one.
-/
namespace PageCheck

inductive ClearMode where
  | text
  | checkbox
  deriving DecidableEq, Repr, Inhabited

inductive Answer where
  | accept | dismiss
  deriving DecidableEq, Repr, Inhabited

def Answer.key : Answer → String
  | .accept => "accept"
  | .dismiss => "dismiss"

inductive Frame where
  | top
  | within (locator : Deferred Locator)
  deriving DecidableEq, Repr, Inhabited

inductive Deed where
  | click (target : Deferred Locator)
  | sendKeys (target : Deferred Locator) (value : Deferred String)
  | clear (target : Deferred Locator) (mode : ClearMode)
  | check (target : Deferred Locator) (values : List (Deferred String))
  | select (target : Deferred Locator) (values : List (Deferred String))
  | unselect (target : Deferred Locator) (values : List (Deferred String))
  | alert (answer : Answer)
  | switchTo (frame : Frame)
  deriving DecidableEq, Repr, Inhabited

structure Action where
  deed : Deed
  timeout : Option Nat
  deriving DecidableEq, Repr, Inhabited

def Deed.directive : Deed → String
  | .click _ => "click"
  | .sendKeys .. => "sendKeys"
  | .clear .. => "clear"
  | .check .. => "check"
  | .select .. => "select"
  | .unselect .. => "unselect"
  | .alert _ => "alert"
  | .switchTo _ => "switchTo"

def Action.directive (a : Action) : String := a.deed.directive

def Frame.resolve (m : Mapping) : Frame → Except Failure Frame
  | .top => .ok .top
  | .within locator => do return .within (← locator.resolve m)

def Deed.resolve (m : Mapping) : Deed → Except Failure Deed
  | .click target => do return .click (← target.resolve m)
  | .sendKeys target value => do
    let target ← target.resolve m
    return .sendKeys target (← value.resolve m)
  | .clear target mode => do return .clear (← target.resolve m) mode
  | .check target values => do
    let target ← target.resolve m
    return .check target (← resolveItems (Deferred.resolve m) values)
  | .select target values => do
    let target ← target.resolve m
    return .select target (← resolveItems (Deferred.resolve m) values)
  | .unselect target values => do
    let target ← target.resolve m
    return .unselect target (← resolveItems (Deferred.resolve m) values)
  | .alert answer => .ok (.alert answer)
  | .switchTo frame => do return .switchTo (← frame.resolve m)

def Action.resolve (m : Mapping) (a : Action) : Except Failure Action := do
  return { a with deed := ← a.deed.resolve m }

def Deed.written : Deed → Json × Fields
  | .click target => (target.toJson, [])
  | .sendKeys target value => (target.toJson, [("value", value.toJson)])
  | .clear target .text => (target.toJson, [])
  | .clear target .checkbox => (target.toJson, [("type", .text "checkbox")])
  | .check target values => (target.toJson, [("values", .list (values.map Deferred.toJson))])
  | .select target values => (target.toJson, [("values", .list (values.map Deferred.toJson))])
  | .unselect target values => (target.toJson, [("values", .list (values.map Deferred.toJson))])
  | .alert answer => (.text answer.key, [])
  | .switchTo .top => (.text "default", [])
  | .switchTo (.within locator) => (locator.toJson, [])

def Action.toJson (a : Action) : Json :=
  Json.canonical (.record ((a.directive, a.deed.written.1) :: a.deed.written.2 ++
    Json.optional "timeout" (a.timeout.map Json.nat)))

end PageCheck
