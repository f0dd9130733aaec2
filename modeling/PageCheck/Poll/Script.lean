import PageCheck.Poll

/-!
Scripted attempts: what each attempt of a poll costs and comes to is laid down beforehand, and the
last entry repeats.
-/
namespace PageCheck

structure TimedAttempt (α ω : Type) where
  cost : Nat
  outcome : Except Failure (Attempt α ω)

structure Script (α ω : Type) where
  now : Nat
  pending : List (TimedAttempt α ω)
  made : Nat

namespace Script

variable {α ω : Type}

instance : Clock (Script α ω) where
  now s := s.now
  sleep time s := { s with now := s.now + time }
  emit _ s := s

def start (pending : List (TimedAttempt α ω)) : Script α ω := { now := 0, pending, made := 0 }

def following : List (TimedAttempt α ω) → List (TimedAttempt α ω)
  | _ :: next :: rest => next :: rest
  | pending => pending

def attempt (rest : ω) : Check (Script α ω) (Attempt α ω) := fun s =>
  let made := { s with pending := following s.pending, made := s.made + 1 }
  match s.pending with
  | [] => .ok (.again rest) made
  | next :: _ =>
    let after := { made with now := s.now + next.cost }
    match next.outcome with
    | .ok outcome => .ok outcome after
    | .error failure => .error failure after

end Script

end PageCheck
