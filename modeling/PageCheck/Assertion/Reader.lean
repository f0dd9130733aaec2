import PageCheck.Assertion.Expected

/-!
Reading assertions. A comparing directive takes its expected values either from `value` or
`values`, with an optional `type`, or from one modifier that names an attribute and stands for a
`type` and a `value` at once.
-/
namespace PageCheck

def Target.ofJson : Json → Except Fault Target
  | .text found =>
    if found = "html" then .ok .html
    else if found = "url" then .ok .url
    else .error (.unknownTarget found)
  | other => ((Shape.deferred other).mapError (.misfit "locator")).map .element

def ValueKind.ofJson : Json → Except Fault ValueKind
  | .text found =>
    if found = "checkbox" then .ok .checkbox
    else if found = "radio" then .ok .radio
    else if found = "select" then .ok .select
    else .error (.unknownType found)
  | .record [(key, .text name)] => if key = "attr" then .ok (.attr name) else .error .typeRecord
  | .record _ => .error .typeRecord
  | other => .error (.typeValue other)

def ValueKind.ofDirective (d : Directive) : Except Fault (Option ValueKind) :=
  match d.modifiers.get? "type" with
  | none => .ok none
  | some written => (ValueKind.ofJson written).map some

def Directive.attributeStandsFor : List String := ["type", "value", "values"]

def Directive.shorthand? (d : Directive) :
    Except Fault (Option (String × String × Deferred String)) :=
  match d.modifiers.filterMap fun field => (namedAttribute? field.1).map ((field, ·)) with
  | [] => .ok none
  | [((key, written), attr)] =>
    if attr = "" then .error (.namelessAttribute key)
    else match attributeStandsFor.find? fun other => d.modifiers.has other with
      | some other => .error (.attributeConflict key other)
      | none => do
        let value ← (Shape.deferred written).mapError (.misfit key)
        return some (key, attr, value)
  | many => .error (.manyAttributes d.name (many.map fun found => found.1.1))

structure Comparand (α : Type) where
  expected : α
  kind : Option ValueKind
  keys : List String

def Comparand.read {α : Type} (d : Directive) (ofOne : Deferred String → α) (keys : List String)
    (plain : Except Fault α) : Except Fault (Comparand α) := do
  match ← d.shorthand? with
  | some (key, attr, value) =>
    return { expected := ofOne value, kind := some (.attr attr), keys := [key] }
  | none =>
    let expected ← plain
    let kind ← ValueKind.ofDirective d
    return { expected, kind, keys := "type" :: keys }

def Comparand.complete (d : Directive) (count : Option UInt64) (c : Comparand Criterion) :
    Except Fault Demand := do
  let target ← Target.ofJson d.body
  d.finish ("timeout" :: "count" :: c.keys)
  return .compare { target, criterion := c.expected, kind := c.kind, count }

namespace Demand

def readPresent (d : Directive) (count : Option UInt64) : Except Fault Demand := do
  let target ← d.value Shape.deferred
  d.finish ["timeout", "count"]
  return .present { target, count }

def readAbsent (d : Directive) (count : Option UInt64) : Except Fault Demand := do
  let target ← d.value Shape.deferred
  if count.isSome then throw (.unsupported "count" d.name)
  d.finish ["timeout", "count"]
  return .absent { target, count := none }

def readLikes (criterion : Deferred String → Criterion) (d : Directive) (count : Option UInt64) :
    Except Fault Demand := do
  if d.modifiers.has "values" then throw (.singleValueOnly d.name)
  let comparand ← Comparand.read d criterion ["value"]
    (criterion <$> d.modifier "value" Shape.deferred)
  comparand.complete d count

def readRelation (relation : Relation) (d : Directive) (count : Option UInt64) :
    Except Fault Demand := do
  let comparand ← Comparand.read d (fun value => .relates relation (.one value))
    ["value", "values"] (.relates relation <$> Expected.ofDirective d)
  comparand.complete d count

def readSatisfies (d : Directive) (count : Option UInt64) : Except Fault Demand := do
  let target ← Target.ofJson d.body
  let predicate ← d.modifier "predicate" Shape.string
  let kind ← ValueKind.ofDirective d
  d.finish ["timeout", "count", "predicate", "type"]
  return .compare { target, criterion := .satisfies predicate, kind, count }

def readers : Keyed (Directive → Option UInt64 → Except Fault Demand) :=
  [("exists", readPresent), ("notExists", readAbsent), ("equals", readRelation .equals),
   ("notEquals", readRelation .notEquals), ("likes", readLikes .likes),
   ("notLikes", readLikes .notLikes), ("checked", readRelation .checked),
   ("unchecked", readRelation .unchecked), ("selected", readRelation .selected),
   ("unselected", readRelation .unselected), ("satisfies", readSatisfies)]

end Demand

namespace Assertion

def modifierKeys : List String := ["value", "values", "type", "timeout", "count", "predicate"]

def ofFields (fields : Fields) : Except Fault Assertion := do
  let d ← Directive.split .assertion modifierKeys fields
  let read ← d.choose .assertion Demand.readers
  let timeout ← d.timeout?
  let count ← d.modifier? "count" Shape.elements
  let demand ← read d count
  return { demand, timeout }

end Assertion

end PageCheck
