import PageCheck.Guard
import PageCheck.Assertion.Verify

/-!
Evaluating guards: groups from left to right, each up to its first true condition, the guard up to
its first false group.
-/
namespace PageCheck.Guard

variable {σ E : Type} [Host σ E]

def condition (settings : CheckSettings) (predicates : Predicates) : Condition → Check σ Bool
  | .flag value => Check.ofExcept value.get
  | .assertion a => a.holds settings predicates

def anyOf (settings : CheckSettings) (predicates : Predicates) : List Condition → Check σ Bool
  | [] => return false
  | first :: rest => do
    if ← condition settings predicates first then return true
    anyOf settings predicates rest

def allOf (settings : CheckSettings) (predicates : Predicates) :
    (index : Nat) → Guard → Check σ Bool
  | _, [] => return true
  | index, group :: rest => do
    if ← anyOf settings predicates group then allOf settings predicates (index + 1) rest
    else
      Check.emit (.groupFalse index)
      return false

def evaluate (settings : CheckSettings) (predicates : Predicates) (g : Guard) : Check σ Bool :=
  allOf settings predicates 0 g

end PageCheck.Guard
