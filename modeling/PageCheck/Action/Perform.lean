import PageCheck.Action
import PageCheck.Assertion
import PageCheck.Extract
import PageCheck.Settings.Checking
import PageCheck.Wait

/-!
Performing actions. Every action waits for its target before it changes anything. An action on a
group clicks only the members whose state differs from the one asked for, so that doing it again
changes nothing.
-/
namespace PageCheck.Action

variable {σ E : Type} [Host σ E]

def notFound (directive locator : String) (timeout : Nat) : HostError → Failure
  | .timeout _ => .noSuchElement directive locator timeout
  | other => .host other

def awaitElement (directive : String) (locator : Locator) (timeout : Nat) : Check σ E := do
  match ← Check.attempt (Wait.element locator timeout) with
  | .ok element => return element
  | .error e => throw (notFound directive locator.display timeout e)

def awaitGroup (settings : CheckSettings) (directive : String) (locator : Locator)
    (timeout : Nat) : Check σ (List E) := do
  match ← Wait.elements locator none { timeout, interval := settings.interval } with
  | .ready elements => return elements
  | .timedOut _ => throw (.noSuchElement directive locator.display timeout)

def awaitOptions (directive : String) (locator : Locator) (timeout : Nat) : Check σ (List E) := do
  let select ← awaitElement directive locator timeout
  Check.ask (Host.findWithin select Extract.optionLocator)

def toggleValue (requested : String) (selected : Bool) : List E → Check σ Bool
  | [] => return false
  | element :: rest => do
    let value ← Check.ask (Host.attr element "value")
    if value = some requested then
      if (← Check.ask (Host.isSelected element)) ≠ selected then Check.ask (Host.click element)
      let _ ← toggleValue requested selected rest
      return true
    else toggleValue requested selected rest

def toggle (directive : String) (locator : Locator) (elements : List E) (selected : Bool) :
    List (Deferred String) → Check σ Unit
  | [] => return ()
  | requested :: rest => do
    let requested ← Check.ofExcept requested.get
    if ← toggleValue requested selected elements then
      toggle directive locator elements selected rest
    else
      throw (.noSuchElement directive
        (locator.display ++ " with value `" ++ requested ++ "`") 0)

def uncheckAll : List E → Check σ Unit
  | [] => return ()
  | element :: rest => do
    if ← Check.ask (Host.isSelected element) then Check.ask (Host.click element)
    uncheckAll rest

def answer (directive : String) (timeout : Nat) (given : Answer) : Check σ Unit := do
  let operation := match given with
    | .accept => Host.acceptDialog timeout
    | .dismiss => Host.dismissDialog timeout
  match ← Check.attempt operation with
  | .ok () => return ()
  | .error (.timeout _) | .error .noAlert =>
    throw (.noSuchElement directive "native dialog" timeout)
  | .error e => throw (.host e)

def carryOut (settings : CheckSettings) (directive : String) (timeout : Nat) :
    Deed → Check σ Unit
  | .click target => do
    let locator ← Check.ofExcept target.get
    let element ← awaitElement directive locator timeout
    Check.ask (Host.click element)
  | .sendKeys target value => do
    let locator ← Check.ofExcept target.get
    let element ← awaitElement directive locator timeout
    let keys ← Check.ofExcept value.get
    Check.ask (Host.sendKeys element keys)
  | .clear target .text => do
    let locator ← Check.ofExcept target.get
    let element ← awaitElement directive locator timeout
    Check.ask (Host.clear element)
  | .clear target .checkbox => do
    let locator ← Check.ofExcept target.get
    let elements ← awaitGroup settings directive locator timeout
    uncheckAll elements
  | .check target values => do
    let locator ← Check.ofExcept target.get
    let elements ← awaitGroup settings directive locator timeout
    toggle directive locator elements true values
  | .select target values => do
    let locator ← Check.ofExcept target.get
    let options ← awaitOptions directive locator timeout
    toggle directive locator options true values
  | .unselect target values => do
    let locator ← Check.ofExcept target.get
    let options ← awaitOptions directive locator timeout
    toggle directive locator options false values
  | .alert given => answer directive timeout given
  | .switchTo .top => Check.ask Host.leaveFrames
  | .switchTo (.within locator) => do
    let locator ← Check.ofExcept locator.get
    let _ ← awaitElement directive locator timeout
    Check.ask (Host.enterFrame locator)

def perform (settings : CheckSettings) (action : Action) : Check σ Unit := do
  Check.emit (.performing action.directive)
  carryOut settings action.directive (action.timeout.getD settings.timeout) action.deed

end PageCheck.Action
