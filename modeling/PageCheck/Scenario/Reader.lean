import PageCheck.Scenario.Outline
import PageCheck.Action.Reader
import PageCheck.Guard.Reader
import PageCheck.Json.Reader

/-!
Reading scenarios in two stages: first the outline of the whole document, then its directive maps,
step by step. So a malformed document is told before any faulty directive map. `Scenario.ofItems`
reads step after step instead, without telling why it fails.
-/
namespace PageCheck

def readAll {α β : Type} (read : α → Except Fault β) : List α → Except Fault (List β)
  | [] => .ok []
  | item :: rest => do
    let first ← read item
    let others ← readAll read rest
    return first :: others

def Guard.ofOutline (groups : List (List Fields)) : Except Fault Guard :=
  readAll (readAll Condition.ofFields) groups

def StepBody.ofOutline (o : OutlineBody) : Except Fault StepBody := do
  let execif ← match o.execif with
    | none => pure none
    | some groups => some <$> Guard.ofOutline groups
  let actions ← readAll Action.ofFields o.actions
  let checks ← readAll Assertion.ofFields o.checks
  return { url := o.url, link := o.link, execif, actions, checks }

mutual

def Step.ofOutline : Outline → Except Fault Step
  | ⟨body, nested⟩ => do
    let body ← StepBody.ofOutline body
    let nested ← Step.ofNestedOutline nested
    return ⟨body, nested⟩

def Step.ofNestedOutline : Option (List Outline) → Except Fault (Option (List Step))
  | none => .ok none
  | some outlines => do return some (← Step.ofOutlines outlines)

def Step.ofOutlines : List Outline → Except Fault (List Step)
  | [] => .ok []
  | outline :: rest => do
    let first ← Step.ofOutline outline
    let others ← Step.ofOutlines rest
    return first :: others

end

def Scenario.ofJson (source : Source) (reason : String) (document : Json) :
    Except Failure Scenario :=
  match Outline.document document with
  | none => .error (.unreadable source reason)
  | some outlines => (Step.ofOutlines outlines).mapError .scenario

def Scenario.ofText [Readers] (text : String) : Except Failure Scenario :=
  let reason := Readers.scenario .json text
  match Json.read text with
  | none => .error (.unreadable .json reason)
  | some document => Scenario.ofJson .json reason document

def Step.ofJson (written : Json) : Option Step :=
  (Outline.ofJson written).bind fun outline => (Step.ofOutline outline).toOption

def Scenario.ofItems : Json → Option Scenario
  | .list items => items.mapM Step.ofJson
  | _ => none

end PageCheck
