import PageCheck.Poll

/-!
Waiting for elements to be there, in a given number, and for elements to be gone. Errors that a
later attempt may not meet count as not found, or as not visible.
-/
namespace PageCheck.Wait

variable {σ E : Type} [Host σ E]

def element (locator : Locator) (timeout : Nat) : EStateM HostError σ E := do
  let found ← Host.waitLocated locator timeout
  Host.waitVisible found timeout

def unsuited (count : Option UInt64) (matched : Nat) : Bool :=
  matched = 0 || count.any fun expected => expected.toNat ≠ matched

def lookForElements (locator : Locator) (count : Option UInt64) :
    Check σ (Attempt (List E) Nat) := do
  match ← Check.attempt (Host.findAll locator) with
  | .error e => if e.isTransient then return .again 0 else throw (.host e)
  | .ok [] => return .again 0
  | .ok (first :: rest) =>
    let matched := rest.length + 1
    if unsuited count matched then return .again matched
    match ← Check.attempt (Host.isDisplayed first) with
    | .ok true => return .done (first :: rest)
    | .ok false => return .again matched
    | .error e => if e.isTransient then return .again matched else throw (.host e)

def elements (locator : Locator) (count : Option UInt64) (poller : Poller) :
    Check σ (Polled (List E) Nat) :=
  poller.run (lookForElements locator count)

def countDisplayed : List E → Check σ Nat
  | [] => return 0
  | element :: rest => do
    let here ← match ← Check.attempt (Host.isDisplayed element) with
      | .ok true => pure 1
      | .ok false => pure 0
      | .error e => if e.isTransient then pure 0 else throw (.host e)
    let others ← countDisplayed rest
    return here + others

def lookForAbsence (locator : Locator) : Check σ (Attempt Unit Nat) := do
  match ← Check.attempt (Host.findAll locator) with
  | .error e => if e.isTransient then return .again 1 else throw (.host e)
  | .ok found =>
    let visible ← countDisplayed found
    if visible = 0 then return .done () else return .again visible

def absence (locator : Locator) (poller : Poller) : Check σ (Polled Unit Nat) :=
  poller.run (lookForAbsence locator)

end PageCheck.Wait
