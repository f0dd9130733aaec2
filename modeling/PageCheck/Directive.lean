import PageCheck.Deferred
import PageCheck.Text.Find

/-!
Directive maps as they are written: one directive with a value of its own, and modifiers beside it.
The readers of the single directives take modifiers by name and end by refusing those that they did
not ask for.
-/
namespace PageCheck

structure Directive where
  name : String
  body : Json
  modifiers : Fields
  deriving Repr, Inhabited

namespace Shape

abbrev Reader (α : Type) := Json → Except ShapeFault α

def unsigned (expected : Shape) : Reader Nat
  | .number (.integer n) =>
    if n < 0 then .error (.outOfRange (.number (.integer n)) expected)
    else if n ≤ Json.maxNatural then .ok n.toNat
    else .error (.wrongKind (.number (.integer n)) expected)
  | found => .error (.wrongKind found expected)

def milliseconds : Reader Nat := unsigned .natural

def elements : Reader UInt64 := fun written => (unsigned .count written).map Nat.toUInt64

def string : Reader String
  | .text value => .ok value
  | found => .error (.wrongKind found .text)

def deferred {α : Type} [Slot α] : Reader (Deferred α) := fun written =>
  match Deferred.ofJson written with
  | some value => .ok value
  | none => .error .notDeferred

def items {α : Type} (read : Reader α) : List Json → Except ShapeFault (List α)
  | [] => .ok []
  | item :: rest => do
    let first ← read item
    let others ← items read rest
    return first :: others

def deferredList : Reader (List (Deferred String))
  | .list written => items deferred written
  | found => .error (.wrongKind found .list)

end Shape

namespace Directive

def attributeMark : List Char := ['a', 't', 't', 'r', '_']

def namedAttribute? (key : String) : Option String :=
  (Text.after? attributeMark key.toList).map String.ofList

def isModifier (modifiers : List String) (key : String) : Bool :=
  key ∈ modifiers || (namedAttribute? key).isSome

def split (family : Family) (modifiers : List String) (fields : Fields) :
    Except Fault Directive :=
  match fields.filter fun field => !isModifier modifiers field.1 with
  | [] => .error (.noDirective family)
  | [(name, body)] => .ok { name, body, modifiers := fields.erase name }
  | many => .error (.manyDirectives family (Keyed.names many))

def choose {ρ : Type} (family : Family) (readers : Keyed ρ) (d : Directive) : Except Fault ρ :=
  match readers.get? d.name with
  | some reader => .ok reader
  | none => .error (.unknownDirective family d.name)

def value {α : Type} (d : Directive) (read : Shape.Reader α) : Except Fault α :=
  (read d.body).mapError (.misfit d.name)

def modifier? {α : Type} (d : Directive) (key : String) (read : Shape.Reader α) :
    Except Fault (Option α) :=
  match d.modifiers.get? key with
  | none => .ok none
  | some written => ((read written).mapError (.misfit key)).map some

def modifier {α : Type} (d : Directive) (key : String) (read : Shape.Reader α) :
    Except Fault α := do
  match ← d.modifier? key read with
  | some value => return value
  | none => throw (.missingModifier d.name key)

def finish (d : Directive) (read : List String) : Except Fault Unit :=
  match d.modifiers.find? fun field => !(field.1 ∈ read) with
  | some field => .error (.unsupported field.1 d.name)
  | none => .ok ()

def timeout? (d : Directive) : Except Fault (Option Nat) :=
  d.modifier? "timeout" Shape.milliseconds

end Directive

end PageCheck
