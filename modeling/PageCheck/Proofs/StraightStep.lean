import PageCheck.Browser.World
import PageCheck.Proofs.Raises

/-!
The phases of a step as one straight line of work. A step resolves its body, does its own work and
enters its nested scenario; the first failure ends it, and whatever fails is told with the resolved
body. This holds on every host that keeps its log apart from the rest of its state.
-/
namespace PageCheck

class Quiet (σ : Type) [Clock σ] : Prop where
  emit (event : Event) (s : σ) : Clock.emit event s = s

instance : Quiet Browser.World := ⟨fun _ _ => rfl⟩

theorem emitNothing {σ : Type} [Clock σ] [Quiet σ] (event : Event) :
    (Check.emit event : Check σ Unit) = pure () := by
  funext s
  exact congrArg (EStateM.Result.ok ()) (Quiet.emit event s)

namespace Tally

theorem eqOf {a b : Tally} (steps : a.steps = b.steps) (skipped : a.skipped = b.skipped)
    (navigations : a.navigations = b.navigations) : a = b := by
  cases a
  cases b
  simp_all

theorem noneAdd (a : Tally) : none + a = a :=
  eqOf (Nat.zero_add _) (Nat.zero_add _) (Nat.zero_add _)

theorem addComm (a b : Tally) : a + b = b + a :=
  eqOf (Nat.add_comm ..) (Nat.add_comm ..) (Nat.add_comm ..)

theorem addAssoc (a b c : Tally) : a + b + c = a + (b + c) :=
  eqOf (Nat.add_assoc ..) (Nat.add_assoc ..) (Nat.add_assoc ..)

end Tally

namespace Report

variable {σ E : Type} [Host σ E] {α β : Type} {debug : Bool} {body : StepBody} {s t : σ}
  {x : Check σ α}

def raise (debug : Bool) (body : StepBody) (failure : Failure) : Check σ α := do
  throw (← wrap debug body failure)

theorem raiseBind (failure : Failure) (f : α → Check σ β) :
    raise debug body failure >>= f = raise debug body failure := by
  unfold raise
  rw [bind_assoc]
  rfl

theorem raiseSettled {failure : Failure} (settled : (debug || failure.isReported) = true) :
    (raise debug body failure : Check σ α) = throw failure := by
  unfold raise wrap
  rw [if_pos settled, pure_bind]

theorem textOrAnswers (warning : String → Event) (operation : EStateM HostError σ String) (s : σ) :
    ∃ text t, textOr warning operation s = .ok text t := by
  cases outcome : operation s with
  | ok text t =>
    have attempted : Check.attempt operation s = .ok (.ok text) t := by
      simp only [Check.attempt, outcome]
    exact ⟨text, t, bindOfOk attempted _⟩
  | error e t =>
    have attempted : Check.attempt operation s = .ok (.error e) t := by
      simp only [Check.attempt, outcome]
    exact ⟨"", Clock.emit (warning e.message) t, bindOfOk attempted _⟩

theorem raiseFails (debug : Bool) (body : StepBody) (failure : Failure) (s : σ) :
    ∃ told t, (raise debug body failure : Check σ α) s = .error told t ∧
      (debug || told.isReported) = true := by
  cases settled : debug || failure.isReported with
  | true => exact ⟨failure, s, by rw [raiseSettled settled]; rfl, settled⟩
  | false =>
    obtain ⟨url, t, atUrl⟩ := textOrAnswers Event.noUrl Host.currentUrl s
    obtain ⟨html, u, atHtml⟩ := textOrAnswers Event.noHtml Host.outerHtml t
    refine ⟨.reported { url, step := body.toJson.compact, html } failure, u, ?_, Bool.or_true _⟩
    unfold raise wrap
    rw [if_neg (by simp [settled]), bind_assoc, bindOfOk atUrl, bind_assoc, bindOfOk atHtml]
    rfl

theorem withinOfOk {value : α} (ran : x s = .ok value t) :
    within debug body x s = .ok value t := by
  show EStateM.tryCatch x _ s = _
  delta EStateM.tryCatch
  rw [ran]

theorem withinOfError {failure : Failure} (failed : x s = .error failure t) :
    within debug body x s = raise debug body failure t := by
  show EStateM.tryCatch x _ s = _
  delta EStateM.tryCatch
  rw [failed]
  rfl

theorem withinEnds {value : α} : within debug body x s = .ok value t ↔ x s = .ok value t := by
  constructor
  · intro ended
    cases ran : x s with
    | ok found u => exact (withinOfOk ran).symm.trans ended
    | error failure u =>
      obtain ⟨told, v, raised, -⟩ := raiseFails (α := α) debug body failure u
      cases ended.symm.trans ((withinOfError ran).trans raised)
  · exact withinOfOk

theorem withinRaise {inner : StepBody} {failure : Failure}
    (raised : x s = raise debug inner failure t) :
    within debug body x s = raise debug inner failure t := by
  obtain ⟨told, u, fails, settled⟩ := raiseFails (α := α) debug inner failure t
  rw [withinOfError (raised.trans fails), raiseSettled settled, fails]
  rfl

theorem withinPure (value : α) : within debug body (pure value : Check σ α) = pure value := rfl

theorem withinEmit (event : Event) :
    within debug body (Check.emit event : Check σ Unit) = Check.emit event := rfl

theorem withinDebug : within true body x = x := by
  funext s
  cases ran : x s with
  | ok value t => exact withinOfOk ran
  | error failure t =>
    rw [withinOfError ran, raiseSettled rfl]
    rfl

theorem withinBind (f : α → Check σ β) :
    within debug body (x >>= f) =
      within debug body x >>= fun value => within debug body (f value) := by
  funext s
  cases ran : x s with
  | ok value t =>
    rw [bindOfOk (withinOfOk ran)]
    cases next : f value t with
    | ok last u => rw [withinOfOk next, withinOfOk ((bindOfOk ran f).trans next)]
    | error failure u => rw [withinOfError next, withinOfError ((bindOfOk ran f).trans next)]
  | error failure t =>
    rw [withinOfError (bindOfError ran f), bindOfSame (withinOfError ran), raiseBind]

end Report

namespace Run

variable {σ E : Type} [Host σ E]

def guardHolds (context : RunContext) (body : StepBody) : Check σ Bool :=
  match body.execif with
  | some guard => guard.evaluate context.settings context.predicates
  | none => pure true

def verifyAll (context : RunContext) (body : StepBody) : Check σ Unit := do
  forEach (Assertion.verify context.settings context.predicates) body.checks
  scanConsole

def ownWork (context : RunContext) (body : StepBody) : Check σ (Option Tally) := do
  if ← guardHolds context body then
    let loaded ← navigate context.settings body
    forEach (Action.perform context.settings) body.actions
    verifyAll context body
    return some { Tally.none with navigations := if loaded then 1 else 0 }
  else return none

def enter : Option (Nested σ) → Check σ Tally
  | some list => list.run
  | none => return .none

def work (context : RunContext) (body : StepBody) (nested : Option (Nested σ)) :
    Check σ (Phase × Tally) := do
  match ← ownWork context body with
  | none => return (.aborted, .oneStep)
  | some counted =>
    let inner ← enter nested
    return (.done, counted + (inner + .oneStep))

def straight (context : RunContext) (body : StepBody) (nested : Option (Nested σ)) :
    Check σ (Phase × Tally) := do
  let resolved ← Report.within context.settings.debug body
    (Check.ofExcept (body.resolve context.mapping))
  Report.within context.settings.debug resolved (work context resolved nested)

def noting {α : Type} (next : Phase) (part : Check σ α) : Check σ α := do
  let value ← part
  Check.emit (.transition next)
  return value

def notingGuard (body : StepBody) : Check σ Unit :=
  if body.execif.isSome then Check.emit (.transition .guardCheck) else pure ()

def enterNoted : Option (Nested σ) → Check σ Tally
  | some list => do
    Check.emit (.entering list.length)
    list.run
  | none => return .none

def admittedPhases (context : RunContext) (body : StepBody) : Check σ Tally := do
  let loaded ← noting .actions (navigate context.settings body)
  noting .checks (forEach (Action.perform context.settings) body.actions)
  noting .nested (verifyAll context body)
  return { Tally.none with navigations := if loaded then 1 else 0 }

def ownPhases (context : RunContext) (body : StepBody) : Check σ (Option Tally) := do
  notingGuard body
  if ← guardHolds context body then
    Check.emit (.transition .navigate)
    some <$> admittedPhases context body
  else
    Check.emit (.transition .aborted)
    return none

def workPhases (context : RunContext) (body : StepBody) (nested : Option (Nested σ)) :
    Check σ (Phase × Tally) := do
  match ← ownPhases context body with
  | none => return (.aborted, .oneStep)
  | some counted =>
    let inner ← noting .done (enterNoted nested)
    return (.done, counted + (inner + .oneStep))

theorem notingEnds {α : Type} {next : Phase} {x : Check σ α} {value : α} {s t : σ} :
    noting next x s = .ok value t ↔
      ∃ u, x s = .ok value u ∧ t = Clock.emit (.transition next) u := by
  unfold noting
  rw [bindEnds]
  constructor
  · rintro ⟨found, u, ran, ⟨⟩⟩
    exact ⟨u, ran, rfl⟩
  · rintro ⟨u, ran, rfl⟩
    exact ⟨value, u, ran, rfl⟩

section Phases

variable {context : RunContext} {body : StepBody} {nested : Option (Nested σ)} {α : Type}
  {phase next : Phase} {x : Check σ α} {count : α → Tally}

theorem phasesContinue (ongoing : isFinal next = false)
    (does : advance context body nested phase = do let value ← x; return (next, count value))
    (limit : Nat) :
    phases context body nested (limit + 1) phase = do
      let value ← Report.within context.settings.debug body (noting next x)
      let (last, others) ← phases context body nested limit next
      return (last, count value + others) := by
  rw [phases, does, noting, Report.withinBind, Report.withinBind]
  simp only [Report.withinBind, Report.withinPure, Report.withinEmit, bind_assoc, pure_bind,
    ongoing, Bool.false_eq_true, if_false]

theorem phasesStop (final : isFinal next = true)
    (does : advance context body nested phase = do let value ← x; return (next, count value))
    (limit : Nat) :
    phases context body nested (limit + 1) phase = do
      let value ← Report.within context.settings.debug body (noting next x)
      return (next, count value + .oneStep) := by
  rw [phases, does, noting, Report.withinBind, Report.withinBind]
  simp only [Report.withinBind, Report.withinPure, Report.withinEmit, bind_assoc, pure_bind,
    final, if_true]

theorem fromNested (limit : Nat) :
    phases context body nested (limit + 1) .nested = Report.within context.settings.debug body (do
      let inner ← noting .done (enterNoted nested)
      return (.done, inner + .oneStep)) := by
  have does : advance context body nested .nested = do
      let inner ← enterNoted nested
      return (Phase.done, id inner) := by
    cases nested with
    | none => rfl
    | some list => simp only [advance, enterNoted, bind_assoc, id]
  rw [phasesStop rfl does, Report.withinBind]
  rfl

theorem fromChecks (limit : Nat) :
    phases context body nested (limit + 2) .checks = Report.within context.settings.debug body (do
      noting .nested (verifyAll context body)
      let inner ← noting .done (enterNoted nested)
      return (.done, inner + .oneStep)) := by
  have does : advance context body nested .checks = do
      let value ← verifyAll context body
      return (Phase.nested, (fun _ => Tally.none) value) := by
    simp only [advance, verifyAll, bind_assoc]
  rw [phasesContinue rfl does, fromNested]
  simp only [bind_assoc, pure_bind, Report.withinBind, Report.withinPure, Tally.noneAdd]

theorem fromActions (limit : Nat) :
    phases context body nested (limit + 3) .actions = Report.within context.settings.debug body (do
      noting .checks (forEach (Action.perform context.settings) body.actions)
      noting .nested (verifyAll context body)
      let inner ← noting .done (enterNoted nested)
      return (.done, inner + .oneStep)) := by
  have does : advance context body nested .actions = do
      let value ← forEach (Action.perform context.settings) body.actions
      return (Phase.checks, (fun _ => Tally.none) value) := rfl
  rw [phasesContinue rfl does, fromChecks]
  simp only [bind_assoc, pure_bind, Report.withinBind, Report.withinPure, Tally.noneAdd]

theorem fromNavigate (limit : Nat) :
    phases context body nested (limit + 4) .navigate =
      Report.within context.settings.debug body (do
        let counted ← admittedPhases context body
        let inner ← noting .done (enterNoted nested)
        return (.done, counted + (inner + .oneStep))) := by
  have does : advance context body nested .navigate = do
      let loaded ← navigate context.settings body
      return (Phase.actions,
        (fun loaded => { Tally.none with navigations := if loaded then 1 else 0 }) loaded) := rfl
  rw [phasesContinue rfl does, fromActions, admittedPhases]
  simp only [bind_assoc, pure_bind, Report.withinBind, Report.withinPure]

theorem advanceGuardCheck (context : RunContext) (body : StepBody) (nested : Option (Nested σ)) :
    advance context body nested .guardCheck = do
      let holds ← guardHolds context body
      return (if holds then .navigate else .aborted, .none) := by
  unfold advance guardHolds
  cases body.execif <;> rfl

theorem fromGuard (limit : Nat) :
    phases context body nested (limit + 5) .guardCheck =
      Report.within context.settings.debug body (do
        if ← guardHolds context body then
          Check.emit (.transition .navigate)
          let counted ← admittedPhases context body
          let inner ← noting .done (enterNoted nested)
          return (.done, counted + (inner + .oneStep))
        else
          Check.emit (.transition .aborted)
          return (.aborted, .oneStep)) := by
  rw [phases, advanceGuardCheck, Report.withinBind, Report.withinBind]
  simp only [Report.withinPure, bind_assoc, pure_bind]
  congr 1
  funext holds
  cases holds with
  | false => rfl
  | true =>
    have onward : phases context body nested (limit + 4) .navigate = _ := fromNavigate limit
    simp only [if_true, Report.withinBind (x := Check.emit _), Report.withinEmit, ← onward,
      isFinal, Bool.false_eq_true, if_false, Tally.noneAdd]
    exact congrArg (_ >>= ·) (funext fun _ => bind_pure _)

theorem workPhasesSplit (context : RunContext) (body : StepBody) (nested : Option (Nested σ)) :
    workPhases context body nested = do
      notingGuard body
      if ← guardHolds context body then
        Check.emit (.transition .navigate)
        let counted ← admittedPhases context body
        let inner ← noting .done (enterNoted nested)
        return (.done, counted + (inner + .oneStep))
      else
        Check.emit (.transition .aborted)
        return (.aborted, .oneStep) := by
  unfold workPhases ownPhases
  simp only [bind_assoc]
  congr 1
  funext _
  congr 1
  funext holds
  cases holds with
  | false => rfl
  | true => simp only [if_true, bind_assoc, map_eq_pure_bind, pure_bind]

theorem fromPending (limit : Nat) :
    phases context body nested (limit + 1) .pending = (do
      Check.emit (.transition (if body.execif.isSome then .guardCheck else .navigate))
      phases context body nested limit
        (if body.execif.isSome then .guardCheck else .navigate)) := by
  rw [phases, advance, Report.withinPure, pure_bind]
  cases body.execif <;> simp [isFinal, Tally.noneAdd]

theorem phasesNoted :
    phases context body nested (remaining .pending) .pending =
      Report.within context.settings.debug body (workPhases context body nested) := by
  rw [workPhasesSplit, show remaining .pending = 5 + 1 from rfl, fromPending, notingGuard]
  cases guarded : body.execif with
  | none =>
    -- the phase of the guard is left out, but would be passed
    simp only [Option.isSome_none, Bool.false_eq_true, if_false, fromNavigate, guardHolds, guarded,
      pure_bind, if_true, Report.withinBind (x := Check.emit _), Report.withinEmit]
  | some guard =>
    simp only [Option.isSome_some, if_true, fromGuard, Report.withinBind (x := Check.emit _),
      Report.withinEmit]

theorem stepNoted (context : RunContext) (body : StepBody) (nested : Option (Nested σ)) :
    stepWith context body nested = (do
      let resolved ← Report.within context.settings.debug body
        (Check.ofExcept (body.resolve context.mapping))
      Report.within context.settings.debug resolved (workPhases context resolved nested)) := by
  unfold stepWith
  simp only [phasesNoted]

variable [Quiet σ]

theorem notingNothing (part : Check σ α) : noting next part = part := by
  unfold noting
  simp only [emitNothing, pure_bind, bind_pure]

theorem enterNotedQuietly (nested : Option (Nested σ)) : enterNoted nested = enter nested := by
  cases nested with
  | none => rfl
  | some list => simp only [enterNoted, enter, emitNothing, pure_bind]

theorem ownPhasesQuietly (context : RunContext) (body : StepBody) :
    ownPhases (σ := σ) context body = ownWork context body := by
  unfold ownPhases ownWork notingGuard admittedPhases
  simp only [notingNothing, emitNothing, ite_self, pure_bind, map_eq_pure_bind, bind_assoc]

theorem stepStraight (context : RunContext) (body : StepBody) (nested : Option (Nested σ)) :
    stepWith context body nested = straight context body nested := by
  rw [stepNoted]
  unfold straight workPhases work
  simp only [ownPhasesQuietly, notingNothing, enterNotedQuietly]

end Phases

section Outcomes

variable [Quiet σ] {context : RunContext} {body resolved : StepBody}
  {nested : Option (List Step)} {failure : Failure} {s t u : σ}

theorem stepUnresolved (missing : body.resolve context.mapping = .error failure) :
    step context ⟨body, nested⟩ s = Report.raise context.settings.debug body failure s := by
  have failed : (Check.ofExcept (body.resolve context.mapping) : Check σ StepBody) s =
      .error failure s := by
    rw [missing]
    rfl
  unfold step
  rw [stepStraight, straight, bindOfSame (Report.withinOfError failed), Report.raiseBind]

theorem stepResolved (found : body.resolve context.mapping = .ok resolved) :
    step (σ := σ) context ⟨body, nested⟩ =
      Report.within context.settings.debug resolved
        (work context resolved (nestedOf context nested)) := by
  unfold step
  rw [stepStraight, straight, found]
  rfl

theorem stepFails (found : body.resolve context.mapping = .ok resolved)
    (failed : ownWork context resolved s = .error failure t) :
    step context ⟨body, nested⟩ s = Report.raise context.settings.debug resolved failure t := by
  rw [stepResolved found]
  exact Report.withinOfError (bindOfError failed _)

theorem stepAborts (found : body.resolve context.mapping = .ok resolved)
    (aborted : ownWork context resolved s = .ok none t) :
    step context ⟨body, nested⟩ s = .ok (.aborted, .oneStep) t := by
  rw [stepResolved found]
  exact Report.withinOfOk (bindOfOk aborted _)

theorem stepEnds {counted inner : Tally} (found : body.resolve context.mapping = .ok resolved)
    (ran : ownWork context resolved s = .ok (some counted) t)
    (entered : enter (nestedOf context nested) t = .ok inner u) :
    step context ⟨body, nested⟩ s = .ok (.done, counted + (inner + .oneStep)) u := by
  rw [stepResolved found]
  exact Report.withinOfOk ((bindOfOk ran _).trans (bindOfOk entered _))

theorem stepFailsInside {counted : Tally} (found : body.resolve context.mapping = .ok resolved)
    (ran : ownWork context resolved s = .ok (some counted) t)
    (failed : enter (nestedOf context nested) t = .error failure u) :
    step context ⟨body, nested⟩ s = Report.raise context.settings.debug resolved failure u := by
  rw [stepResolved found]
  exact Report.withinOfError ((bindOfOk ran _).trans (bindOfError failed _))

end Outcomes

section Lists

variable [Quiet σ] {context : RunContext} {first : Step} {rest : Scenario} {counted : Tally}
  {failure : Failure} {s t : σ}

theorem stepsAnywhere (list : Scenario) (index index' : Nat) :
    steps (σ := σ) context index list = steps context index' list := by
  induction list generalizing index index' with
  | nil => unfold steps; rfl
  | cons first rest ih =>
    unfold steps
    -- the index is only logged
    simp only [emitNothing, ih (index + 1) (index' + 1)]

theorem scenarioSteps (list : Scenario) :
    scenario (σ := σ) context list = steps context 0 list := by
  unfold scenario
  simp only [emitNothing, pure_bind]
  exact bind_pure _

theorem enterNested (list : Scenario) :
    enter (nestedOf (σ := σ) context (some list)) = scenario context list := by
  rw [scenarioSteps]
  unfold nestedOf
  rfl

omit [Quiet σ] in
theorem enterNothing : enter (nestedOf (σ := σ) context none) = pure .none := by
  unfold nestedOf
  rfl

theorem scenarioNil : scenario (σ := σ) context [] = pure .none := by
  rw [scenarioSteps]
  unfold steps
  rfl

theorem scenarioCons (first : Step) (rest : Scenario) :
    scenario (σ := σ) context (first :: rest) = do
      let (phase, counted) ← step context first
      if phase = .aborted then return counted + { Tally.none with skipped := rest.length }
      else return counted + (← scenario context rest) := by
  rw [scenarioSteps, scenarioSteps, steps]
  simp only [emitNothing, pure_bind, stepsAnywhere rest 1 0]

theorem firstFails (rest : Scenario) (failed : step context first s = .error failure t) :
    scenario context (first :: rest) s = .error failure t := by
  rw [scenarioCons]
  exact bindOfError failed _

theorem firstAborts (rest : Scenario) (aborted : step context first s = .ok (.aborted, counted) t) :
    scenario context (first :: rest) s =
      .ok (counted + { Tally.none with skipped := rest.length }) t := by
  rw [scenarioCons]
  exact bindOfOk aborted _

theorem firstDone (rest : Scenario) (done : step context first s = .ok (.done, counted) t) :
    scenario context (first :: rest) s = (do return counted + (← scenario context rest)) t := by
  rw [scenarioCons]
  exact bindOfOk done _

end Lists

end Run

end PageCheck
