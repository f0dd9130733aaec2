import PageCheck.Host

/-!
Polling: an attempt is repeated with a fixed delay until it is done or the time is up. There is
always one attempt, and the last delay is cut so that one attempt is made at the deadline. Only the
last observation survives.
-/
namespace PageCheck

inductive Attempt (α ω : Type) where
  | done (value : α)
  | again (observed : ω)
  deriving DecidableEq, Repr, Inhabited

inductive Polled (α ω : Type) where
  | ready (value : α)
  | timedOut (observed : ω)
  deriving DecidableEq, Repr, Inhabited

structure Poller where
  timeout : Nat
  interval : Nat
  deriving DecidableEq, Repr, Inhabited

namespace Poller

variable {σ : Type} [Clock σ] {α ω : Type}

/-- Attempts that are made before the count of attempts, a word of 64 bits, is used up without the
clock advancing. With a positive interval the deadline comes first. -/
def attemptLimit (p : Poller) : Nat := p.timeout + 0x10000000000000000

def expire (made : Nat) (observed : ω) : Check σ (Polled α ω) := do
  Check.emit (.pollTimedOut made)
  return .timedOut observed

def attempts (p : Poller) (deadline : Nat) (attempt : Check σ (Attempt α ω)) :
    (limit made : Nat) → Check σ (Polled α ω)
  | 0, made => do
    match ← attempt with
    | .done value => return .ready value
    | .again observed => expire (made + 1) observed
  | limit + 1, made => do
    match ← attempt with
    | .done value => return .ready value
    | .again observed =>
      let now ← Check.now
      if deadline ≤ now then expire (made + 1) observed
      else
        Check.sleep (min p.interval (deadline - now))
        attempts p deadline attempt limit (made + 1)

def run (p : Poller) (attempt : Check σ (Attempt α ω)) : Check σ (Polled α ω) := do
  let start ← Check.now
  attempts p (start + p.timeout) attempt p.attemptLimit 0

end Poller

end PageCheck
