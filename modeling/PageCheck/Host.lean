import PageCheck.Locator
import PageCheck.Failure

/-!
What the interpreter needs from its surroundings: the operations of a browser session, a clock in
milliseconds, and a place for log events. Operations keep their effect on the state also when they
fail.
-/
namespace PageCheck

inductive Phase where
  | pending | guardCheck | navigate | actions | checks | nested | done | aborted
  deriving DecidableEq, Repr, Inhabited

inductive Event where
  | transition (phase : Phase)
  | finished (steps skipped navigations : Nat)
  | guardFalse (index skipped : Nat)
  | entering (steps : Nat)
  | navigating (url : String)
  | following (locator : Locator)
  | performing (directive : String)
  | verifying (directive : String)
  | pollTimedOut (attempts : Nat)
  | valueTimedOut (directive : String)
  | guardFailed (directive error : String)
  | groupFalse (group : Nat)
  | noUrl (error : String)
  | noHtml (error : String)
  | parsed (file : String) (steps : Nat)
  | running (file : String) (steps : Nat)
  deriving DecidableEq, Repr, Inhabited

class Clock (σ : Type) where
  now : σ → Nat
  sleep : Nat → σ → σ
  emit : Event → σ → σ

class Host (σ : Type) (E : outParam Type) extends Clock σ where
  goto : String → EStateM HostError σ Unit
  currentUrl : EStateM HostError σ String
  outerHtml : EStateM HostError σ String
  findAll : Locator → EStateM HostError σ (List E)
  findWithin : E → Locator → EStateM HostError σ (List E)
  waitLocated : Locator → Nat → EStateM HostError σ E
  waitVisible : E → Nat → EStateM HostError σ E
  isDisplayed : E → EStateM HostError σ Bool
  tagName : E → EStateM HostError σ String
  attr : E → String → EStateM HostError σ (Option String)
  text : E → EStateM HostError σ String
  isSelected : E → EStateM HostError σ Bool
  click : E → EStateM HostError σ Unit
  sendKeys : E → String → EStateM HostError σ Unit
  clear : E → EStateM HostError σ Unit
  drainConsole : EStateM HostError σ (List String)
  enterFrame : Locator → EStateM HostError σ Unit
  leaveFrames : EStateM HostError σ Unit
  acceptDialog : Nat → EStateM HostError σ Unit
  dismissDialog : Nat → EStateM HostError σ Unit

abbrev Check (σ : Type) := EStateM Failure σ

namespace Check

variable {σ : Type}

def ask {α : Type} (operation : EStateM HostError σ α) : Check σ α := fun s =>
  match operation s with
  | .ok value s => .ok value s
  | .error e s => .error (.host e) s

def attempt {α : Type} (operation : EStateM HostError σ α) : Check σ (Except HostError α) :=
  fun s =>
    match operation s with
    | .ok value s => .ok (.ok value) s
    | .error e s => .ok (.error e) s

def ofExcept {α : Type} : Except Failure α → Check σ α
  | .ok value => pure value
  | .error e => throw e

variable [Clock σ]

def emit (event : Event) : Check σ Unit := modify (Clock.emit event)

def now : Check σ Nat := Clock.now <$> get

def sleep (time : Nat) : Check σ Unit := modify (Clock.sleep time)

end Check

end PageCheck
