import PageCheck.Run

/-!
Run summaries: what a run counted and how long it took, as a written record.
-/
namespace PageCheck

structure Summary where
  tally : Tally
  seconds : Nat
  nanoseconds : Nat
  deriving DecidableEq, Repr, Inhabited

namespace Summary

def naturalUpTo (greatest : Nat) : Json → Option Nat
  | .number (.integer n) => if 0 ≤ n ∧ n ≤ greatest then some n.toNat else none
  | _ => none

def count (fields : Fields) (name : String) : Option Nat :=
  (fields.get? name).bind (naturalUpTo Json.maxNatural)

def duration (written : Json) : Option (Nat × Nat) := do
  let fields ← Json.closedFields ["secs", "nanos"] written
  let seconds ← count fields "secs"
  let nanoseconds ← (fields.get? "nanos").bind (naturalUpTo 0xffffffff)
  let carried := seconds + nanoseconds / 1000000000
  if carried ≤ Json.maxNatural then some (carried, nanoseconds % 1000000000) else none

def ofJson (written : Json) : Option Summary := do
  let fields ← Json.openFields ["steps", "skipped", "navigations", "elapsed"] written
  let steps ← count fields "steps"
  let skipped ← count fields "skipped"
  let navigations ← count fields "navigations"
  let (seconds, nanoseconds) ← (fields.get? "elapsed").bind duration
  return { tally := { steps, skipped, navigations }, seconds, nanoseconds }

def toJson (s : Summary) : Json :=
  .record [("steps", Json.nat s.tally.steps), ("skipped", Json.nat s.tally.skipped),
    ("navigations", Json.nat s.tally.navigations),
    ("elapsed", .record [("secs", Json.nat s.seconds), ("nanos", Json.nat s.nanoseconds)])]

end Summary

end PageCheck
