import PageCheck.Guard

/-!
Steps and scenarios. A step has a body, which is resolved and run as a whole, and may hold a nested
scenario, a list of steps of its own. Steps are written with their fields in a fixed order, and
without those that are empty.
-/
namespace PageCheck

structure StepBody where
  url : Option (Deferred String)
  link : Option (Deferred Locator)
  execif : Option Guard
  actions : List Action
  checks : List Assertion
  deriving DecidableEq, Repr, Inhabited

structure Step where
  body : StepBody
  nested : Option (List Step)
  deriving Repr, Inhabited

abbrev Scenario := List Step

mutual

def Step.decEq : (a b : Step) → Decidable (a = b)
  | ⟨body, nested⟩, ⟨body', nested'⟩ =>
    if h : body = body' then
      match Step.decEqNested nested nested' with
      | .isTrue same => .isTrue (by rw [h, same])
      | .isFalse differ => .isFalse (by simp [differ])
    else .isFalse (by simp [h])

def Step.decEqNested : (a b : Option (List Step)) → Decidable (a = b)
  | none, none => .isTrue rfl
  | none, some _ => .isFalse (by simp)
  | some _, none => .isFalse (by simp)
  | some a, some b =>
    match Step.decEqList a b with
    | .isTrue same => .isTrue (by rw [same])
    | .isFalse differ => .isFalse (by simp [differ])

def Step.decEqList : (a b : List Step) → Decidable (a = b)
  | [], [] => .isTrue rfl
  | [], _ :: _ => .isFalse (by simp)
  | _ :: _, [] => .isFalse (by simp)
  | a :: as, b :: bs =>
    match Step.decEq a b with
    | .isTrue h =>
      match Step.decEqList as bs with
      | .isTrue same => .isTrue (by rw [h, same])
      | .isFalse differ => .isFalse (by simp [differ])
    | .isFalse h => .isFalse (by simp [h])

end

instance : DecidableEq Step := Step.decEq

namespace StepBody

def empty : StepBody := { url := none, link := none, execif := none, actions := [], checks := [] }

def navigates (b : StepBody) : Bool := b.url.isSome || b.link.isSome

end StepBody

namespace Step

def ofBody (body : StepBody) : Step := { body, nested := none }

def visit (url : Deferred String) : Step := ofBody { StepBody.empty with url := some url }

def guarded (guard : Guard) : Step := ofBody { StepBody.empty with execif := some guard }

def acting (actions : List Action) : Step := ofBody { StepBody.empty with actions }

def checking (checks : List Assertion) : Step := ofBody { StepBody.empty with checks }

def nesting (steps : List Step) : Step := { body := .empty, nested := some steps }

end Step

def StepBody.resolve (m : Mapping) (b : StepBody) : Except Failure StepBody := do
  let url ← resolveOption (Deferred.resolve m) b.url
  let link ← resolveOption (Deferred.resolve m) b.link
  let execif ← resolveOption (Guard.resolve m) b.execif
  let actions ← resolveItems (Action.resolve m) b.actions
  let checks ← resolveItems (Assertion.resolve m) b.checks
  return { url, link, execif, actions, checks }

mutual

def Step.resolve (m : Mapping) : Step → Except Failure Step
  | ⟨body, nested⟩ => do
    let body ← body.resolve m
    let nested ← Step.resolveNested m nested
    return ⟨body, nested⟩

def Step.resolveNested (m : Mapping) : Option (List Step) → Except Failure (Option (List Step))
  | none => .ok none
  | some steps => do return some (← Step.resolveList m steps)

def Step.resolveList (m : Mapping) : List Step → Except Failure (List Step)
  | [] => .ok []
  | step :: rest => do
    let first ← step.resolve m
    let others ← Step.resolveList m rest
    return first :: others

end

def Scenario.resolve (m : Mapping) (s : Scenario) : Except Failure Scenario :=
  Step.resolveList m s

def StepBody.written (b : StepBody) : Fields :=
  Json.optional "url" (b.url.map Deferred.toJson) ++
  Json.optional "link" (b.link.map Deferred.toJson) ++
  Json.optional "execif" (b.execif.map Guard.toJson) ++
  Json.nonempty "actions" (b.actions.map Action.toJson) ++
  Json.nonempty "checks" (b.checks.map Assertion.toJson)

def StepBody.toJson (b : StepBody) : Json := .record b.written

mutual

def Step.toJson : Step → Json
  | ⟨body, nested⟩ => .record (body.written ++ Step.writtenNested nested)

def Step.writtenNested : Option (List Step) → Fields
  | none => []
  | some steps => [("scenario", .list (Step.listToJson steps))]

def Step.listToJson : List Step → List Json
  | [] => []
  | step :: rest => step.toJson :: Step.listToJson rest

end

def Scenario.toJson (s : Scenario) : Json := .list (Step.listToJson s)

end PageCheck
