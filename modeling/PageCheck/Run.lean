import PageCheck.Action.Perform
import PageCheck.Console
import PageCheck.Guard.Evaluate
import PageCheck.Report

/-!
Running scenarios. A step goes through its phases in a fixed order; a false guard aborts it and
skips the rest of its own list. References are resolved when a step is reached, its nested scenario
apart, whose steps are resolved when they are reached in turn. The console is scanned around every
navigation and after the checks of every step.
-/
namespace PageCheck

structure Tally where
  /-- Steps that were run, nested ones and those with a false guard included. -/
  steps : Nat
  skipped : Nat
  navigations : Nat
  deriving DecidableEq, Repr, Inhabited

namespace Tally

def none : Tally := { steps := 0, skipped := 0, navigations := 0 }

def oneStep : Tally := { none with steps := 1 }

def add (a b : Tally) : Tally :=
  { steps := a.steps + b.steps, skipped := a.skipped + b.skipped,
    navigations := a.navigations + b.navigations }

instance : Add Tally := ⟨add⟩

end Tally

structure RunContext where
  settings : CheckSettings
  predicates : Predicates
  mapping : Mapping

namespace Run

variable {σ E : Type} [Host σ E]

def scanConsole : Check σ Unit := do
  let url ← Check.ask Host.currentUrl
  let entries ← Check.ask Host.drainConsole
  match Console.scan url entries with
  | some failure => throw failure
  | none => return ()

def visit (settings : CheckSettings) (url : Deferred String) : Check σ Unit := do
  let url := settings.resolveUrl (← Check.ofExcept url.get)
  Check.emit (.navigating url)
  Check.ask (Host.goto url)

def follow (settings : CheckSettings) (link : Deferred Locator) : Check σ Unit := do
  let locator ← Check.ofExcept link.get
  Check.emit (.following locator)
  let element ← Action.awaitElement "link" locator settings.timeout
  Check.ask (Host.click element)

def navigate (settings : CheckSettings) (body : StepBody) : Check σ Bool := do
  if body.navigates then
    scanConsole
    match body.url with
    | some url => visit settings url
    | none => pure ()
    match body.link with
    | some link => follow settings link
    | none => pure ()
    scanConsole
    return true
  else return false

def forEach {α : Type} (act : α → Check σ Unit) : List α → Check σ Unit
  | [] => return ()
  | item :: rest => do
    act item
    forEach act rest

structure Nested (σ : Type) where
  length : Nat
  run : Check σ Tally

def advance (context : RunContext) (body : StepBody) (nested : Option (Nested σ)) :
    Phase → Check σ (Phase × Tally)
  | .pending => return (if body.execif.isSome then .guardCheck else .navigate, .none)
  | .guardCheck => do
    let holds ← match body.execif with
      | some guard => guard.evaluate context.settings context.predicates
      | none => pure true
    return (if holds then .navigate else .aborted, .none)
  | .navigate => do
    let loaded ← navigate context.settings body
    return (.actions, { Tally.none with navigations := if loaded then 1 else 0 })
  | .actions => do
    forEach (Action.perform context.settings) body.actions
    return (.checks, .none)
  | .checks => do
    forEach (Assertion.verify context.settings context.predicates) body.checks
    scanConsole
    return (.nested, .none)
  | .nested =>
    match nested with
    | some list => do
      Check.emit (.entering list.length)
      return (.done, ← list.run)
    | none => return (.done, .none)
  | .done => return (.done, .none)
  | .aborted => return (.aborted, .none)

def remaining : Phase → Nat
  | .pending => 6
  | .guardCheck => 5
  | .navigate => 4
  | .actions => 3
  | .checks => 2
  | .nested => 1
  | .done | .aborted => 0

def isFinal : Phase → Bool
  | .done | .aborted => true
  | _ => false

def phases (context : RunContext) (body : StepBody) (nested : Option (Nested σ)) :
    (limit : Nat) → Phase → Check σ (Phase × Tally)
  | 0, phase => return (phase, .none)
  | limit + 1, phase => do
    let (next, counted) ← Report.within context.settings.debug body
      (advance context body nested phase)
    Check.emit (.transition next)
    if isFinal next then return (next, counted + .oneStep)
    let (last, others) ← phases context body nested limit next
    return (last, counted + others)

def stepWith (context : RunContext) (body : StepBody) (nested : Option (Nested σ)) :
    Check σ (Phase × Tally) := do
  let resolved ← Report.within context.settings.debug body
    (Check.ofExcept (body.resolve context.mapping))
  phases context resolved nested (remaining .pending) .pending

mutual

def step (context : RunContext) : Step → Check σ (Phase × Tally)
  | ⟨body, nested⟩ => stepWith context body (nestedOf context nested)

def nestedOf (context : RunContext) : Option (List Step) → Option (Nested σ)
  | none => none
  | some list => some { length := list.length, run := steps context 0 list }

def steps (context : RunContext) : (index : Nat) → List Step → Check σ Tally
  | _, [] => return .none
  | index, first :: rest => do
    let (phase, counted) ← step context first
    if phase = .aborted then
      Check.emit (.guardFalse index rest.length)
      return counted + { Tally.none with skipped := rest.length }
    let others ← steps context (index + 1) rest
    return counted + others

end

def scenario (context : RunContext) (s : Scenario) : Check σ Tally := do
  let tally ← steps context 0 s
  Check.emit (.finished tally.steps tally.skipped tally.navigations)
  return tally

end Run

end PageCheck
