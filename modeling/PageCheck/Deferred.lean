import PageCheck.Placeholder

/-!
Fields that hold either a literal or a reference to be resolved later. `Slot` says which literals a
field takes and which entries may stand in for one.
-/
namespace PageCheck

inductive Deferred (α : Type) where
  | reference (placeholder : Placeholder)
  | value (literal : α)
  deriving DecidableEq, Repr, Inhabited

class Slot (α : Type) where
  ofJson : Json → Option α
  toJson : α → Json
  ofEntry : String → Entry → Except Failure α

instance : Slot String where
  ofJson
    | .text value => some value
    | _ => none
  toJson := .text
  ofEntry _ entry := .ok entry.toText

instance : Slot Locator where
  ofJson := Locator.ofJson
  toJson := Locator.toJson
  ofEntry key
    | .locator value => .ok value
    | other => .error (.scenario (.wrongEntry key "a locator" other.describe))

instance : Slot Bool where
  ofJson
    | .bool value => some value
    | _ => none
  toJson := .bool
  ofEntry key
    | .bool value => .ok value
    | other => .error (.scenario (.wrongEntry key "a boolean" other.describe))

namespace Deferred

variable {α : Type}

def get : Deferred α → Except Failure α
  | value literal => .ok literal
  | reference placeholder => .error (.scenario (.unresolved placeholder.key))

def isReference : Deferred α → Bool
  | reference _ => true
  | value _ => false

variable [Slot α]

def resolve (m : Mapping) : Deferred α → Except Failure (Deferred α)
  | value literal => .ok (value literal)
  | reference placeholder => do
    let entry ← placeholder.resolve m
    let literal ← Slot.ofEntry placeholder.key entry
    return value literal

def toJson : Deferred α → Json
  | reference placeholder => placeholder.toJson
  | value literal => Slot.toJson literal

def ofJson (written : Json) : Option (Deferred α) :=
  match Placeholder.ofJson written with
  | some placeholder => some (reference placeholder)
  | none => (Slot.ofJson written).map value

end Deferred

def resolveOption {α : Type} (resolve : α → Except Failure α) : Option α → Except Failure (Option α)
  | none => .ok none
  | some part => do return some (← resolve part)

def resolveItems {α : Type} (resolve : α → Except Failure α) : List α → Except Failure (List α)
  | [] => .ok []
  | item :: rest => do
    let first ← resolve item
    let others ← resolveItems resolve rest
    return first :: others

end PageCheck
