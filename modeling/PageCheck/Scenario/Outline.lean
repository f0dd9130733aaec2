import PageCheck.Step
import PageCheck.Json.Struct

/-!
Outlines: steps as they stand in a document, with their directive maps not read yet. A document
that has no outline is malformed; what is wrong inside a directive map shows only later.
-/
namespace PageCheck

structure OutlineBody where
  url : Option (Deferred String)
  link : Option (Deferred Locator)
  execif : Option (List (List Fields))
  actions : List Fields
  checks : List Fields
  deriving Repr, Inhabited

structure Outline where
  body : OutlineBody
  nested : Option (List Outline)
  deriving Repr, Inhabited

def stepFields : List String := ["url", "link", "execif", "actions", "checks", "scenario"]

namespace OutlineBody

def optional {α : Type} (fields : Fields) (name : String) (read : Json → Option α) :
    Option (Option α) :=
  match fields.get? name with
  | none => some none
  | some .null => some none
  | some written => (read written).map some

def listed {α : Type} (fields : Fields) (name : String) (read : Json → Option (List α)) :
    Option (List α) :=
  match fields.get? name with
  | none => some []
  | some written => read written

def items {α : Type} (read : Json → Option α) : Json → Option (List α)
  | .list written => written.mapM read
  | _ => none

def directiveMap : Json → Option Fields
  | .record fields => some (Keyed.sorted (Json.canonicalFields fields))
  | _ => none

def ofFields (fields : Fields) : Option OutlineBody := do
  let url ← optional fields "url" Deferred.ofJson
  let link ← optional fields "link" Deferred.ofJson
  let execif ← optional fields "execif" (items (items directiveMap))
  let actions ← listed fields "actions" (items directiveMap)
  let checks ← listed fields "checks" (items directiveMap)
  return { url, link, execif, actions, checks }

end OutlineBody

mutual

def Outline.ofJson : Json → Option Outline
  | .record fields => do
    let known ← Json.closedFields stepFields (.record fields)
    let body ← OutlineBody.ofFields known
    let nested ← Outline.nestedIn fields
    return { body, nested }
  | .list items => do
    let known ← Json.closedFields stepFields (.list items)
    let body ← OutlineBody.ofFields known
    let nested ← Outline.nestedAt 5 items
    return { body, nested }
  | _ => none

def Outline.nestedIn : List (String × Json) → Option (Option (List Outline))
  | [] => some none
  | (name, value) :: rest =>
    if name = "scenario" then Outline.nestedOf value else Outline.nestedIn rest

def Outline.nestedAt : Nat → List Json → Option (Option (List Outline))
  | _, [] => some none
  | 0, value :: _ => Outline.nestedOf value
  | n + 1, _ :: rest => Outline.nestedAt n rest

def Outline.nestedOf : Json → Option (Option (List Outline))
  | .null => some none
  | .list items => (Outline.listOf items).map some
  | _ => none

def Outline.listOf : List Json → Option (List Outline)
  | [] => some []
  | item :: rest => do
    let first ← Outline.ofJson item
    let others ← Outline.listOf rest
    return first :: others

end

def Outline.document : Json → Option (List Outline)
  | .list items => Outline.listOf items
  | _ => none

end PageCheck
