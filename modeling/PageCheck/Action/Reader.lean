import PageCheck.Action
import PageCheck.Assertion.Expected

/-!
Reading actions. Each directive has a reader of its own, which names the modifiers that the
directive takes; `timeout` is taken by all.
-/
namespace PageCheck

def Answer.read : Shape.Reader Answer
  | .text found => named found
  | .record [(found, content)] => do
    let answer ← named found
    match content with
    | .null => return answer
    | other => throw (.wrongKind other .nothing)
  | .record _ => .error .notSingle
  | other => .error (.wrongKind other .textOrRecord)
where
  named (found : String) : Except ShapeFault Answer :=
    if found = "accept" then .ok .accept
    else if found = "dismiss" then .ok .dismiss
    else .error (.unknownAnswer found)

namespace Deed

def readClick (d : Directive) : Except Fault Deed := do
  let target ← d.value Shape.deferred
  d.finish ["timeout"]
  return .click target

def readSendKeys (d : Directive) : Except Fault Deed := do
  let target ← d.value Shape.deferred
  let value ← d.modifier "value" Shape.deferred
  d.finish ["timeout", "value"]
  return .sendKeys target value

def readClear (d : Directive) : Except Fault Deed := do
  let mode ← match ← d.modifier? "type" Shape.string with
    | none => pure ClearMode.text
    | some found =>
      if found = "checkbox" then pure ClearMode.checkbox else throw (.clearType found)
  let target ← d.value Shape.deferred
  d.finish ["timeout", "type"]
  return .clear target mode

def readGroup (deed : Deferred Locator → List (Deferred String) → Deed) (d : Directive) :
    Except Fault Deed := do
  let target ← d.value Shape.deferred
  let expected ← Expected.ofDirective d
  d.finish ["timeout", "value", "values"]
  return deed target expected.toList

def readAlert (d : Directive) : Except Fault Deed := do
  let answer ← d.value Answer.read
  d.finish ["timeout"]
  return .alert answer

def readSwitchTo (d : Directive) : Except Fault Deed := do
  let frame ← match d.body with
    | .text found => if found = "default" then pure Frame.top else throw (.unknownFrame found)
    | _ => Frame.within <$> d.value Shape.deferred
  d.finish ["timeout"]
  return .switchTo frame

def readers : Keyed (Directive → Except Fault Deed) :=
  [("click", readClick), ("sendKeys", readSendKeys), ("clear", readClear),
   ("check", readGroup .check), ("select", readGroup .select),
   ("unselect", readGroup .unselect), ("alert", readAlert), ("switchTo", readSwitchTo)]

end Deed

namespace Action

def modifierKeys : List String := ["value", "values", "type", "timeout", "count"]

def ofFields (fields : Fields) : Except Fault Action := do
  let d ← Directive.split .action modifierKeys fields
  let read ← d.choose .action Deed.readers
  let timeout ← d.timeout?
  let deed ← read d
  return { deed, timeout }

end Action

end PageCheck
