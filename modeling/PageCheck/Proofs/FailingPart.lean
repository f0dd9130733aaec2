import PageCheck.Proofs.PartFailures
import PageCheck.Proofs.StraightStep

/-!
The part of a step that fails. When a step fails by what it does itself, one of its parts fails:
its guard, its address, its link, an action, a check, or a scan of the console.
-/
namespace PageCheck

variable {σ E : Type} [Host σ E]

theorem Raises.noting {α : Type} {P : Failure → σ → Prop} {next : Phase} {part : Check σ α}
    (raises : Raises P part) : Raises P (Run.noting next part) :=
  raises.bind fun _ => (Raises.emit _).bind fun _ => .pure _

theorem Raises.textOr {P : Failure → σ → Prop} (warning : String → Event)
    (operation : EStateM HostError σ String) : Raises P (Report.textOr warning operation) := by
  refine Raises.attempt (fun text => .pure _) (@fun s e t failed => ?_)
  exact (Raises.emit _).bind (fun _ => .pure _) t

namespace Run

variable {context : RunContext} {body : StepBody} {failure : Failure}
  {t : σ}

inductive FailsAt (context : RunContext) (body : StepBody) (failure : Failure) (t : σ) : Prop where
  | guard {g s} (given : body.execif = some g)
      (failed : g.evaluate context.settings context.predicates s = .error failure t)
  | scan {s} (failed : scanConsole s = .error failure t)
  | visit {url s} (given : body.url = some url)
      (failed : visit context.settings url s = .error failure t)
  | follow {link s} (given : body.link = some link)
      (failed : follow context.settings link s = .error failure t)
  | act {action s} (given : action ∈ body.actions)
      (failed : Action.perform context.settings action s = .error failure t)
  | check {a s} (given : a ∈ body.checks)
      (failed : a.verify context.settings context.predicates s = .error failure t)

theorem guardFailsAt : Raises (FailsAt context body) (guardHolds (σ := σ) context body) := by
  unfold guardHolds
  cases guarded : body.execif with
  | none => exact .pure _
  | some g => exact fun _ _ _ failed => .guard guarded failed

theorem navigateFailsAt :
    Raises (FailsAt context body) (navigate (σ := σ) context.settings body) := by
  have scans : Raises (FailsAt context body) (scanConsole (σ := σ)) := fun _ _ _ => .scan
  have done : Raises (FailsAt context body) (do scanConsole (σ := σ); return true) :=
    scans.bind fun _ => .pure _
  refine .ite (scans.bind fun _ => ?_) (.pure _)
  cases visited : body.url <;> cases followed : body.link
  case none.none => exact done
  case none.some link => exact .bind (fun _ _ _ => .follow followed) fun _ => done
  case some.none url => exact .bind (fun _ _ _ => .visit visited) fun _ => done
  case some.some url link =>
    refine .bind (fun _ _ _ => .visit visited) fun _ => ?_
    exact .bind (fun _ _ _ => .follow followed) fun _ => done

theorem actionsFailAt :
    Raises (FailsAt context body)
      (forEach (σ := σ) (Action.perform context.settings) body.actions) :=
  .forEach _ fun _ member _ _ _ => .act member

theorem verifyAllFailsAt : Raises (FailsAt context body) (verifyAll (σ := σ) context body) :=
  .bind (.forEach _ fun _ member _ _ _ => .check member) fun _ _ _ _ => .scan

theorem ownWorkFailsAt : Raises (FailsAt context body) (ownWork (σ := σ) context body) := by
  refine guardFailsAt.bind fun holds => .ite ?_ (.pure _)
  refine navigateFailsAt.bind fun loaded => actionsFailAt.bind fun _ => ?_
  exact verifyAllFailsAt.bind fun _ => .pure _

theorem ownPhasesFailAt : Raises (FailsAt context body) (ownPhases (σ := σ) context body) := by
  have notes : Raises (FailsAt context body) (notingGuard (σ := σ) body) :=
    .ite (.emit _) (.pure _)
  refine notes.bind fun _ => guardFailsAt.bind fun holds => .ite ?_ ?_
  · refine (Raises.emit _).bind fun _ => Raises.map some ?_
    refine navigateFailsAt.noting.bind fun _ => actionsFailAt.noting.bind fun _ => ?_
    exact verifyAllFailsAt.noting.bind fun _ => .pure _
  · exact (Raises.emit _).bind fun _ => .pure _

theorem FailsAt.admitted {P : Failure → σ → Prop} (admits : Admits P)
    (left : Tolerates P body.references) (part : FailsAt context body failure t) :
    P failure t := by
  unfold StepBody.references at left
  cases part with
  | guard given failed =>
    rw [given] at left
    have left := left.left.left.right
    rw [Option.toList_some, List.flatMap_singleton] at left
    exact Raises.allOf admits _ _ _ left _ _ _ failed
  | scan failed => exact Raises.scanConsole admits _ _ _ failed
  | visit given failed =>
    rw [given] at left
    have left := left.left.left.left.left
    rw [Option.toList_some, List.flatMap_singleton] at left
    exact Raises.visit admits _ left _ _ _ failed
  | follow given failed =>
    rw [given] at left
    have left := left.left.left.left.right
    rw [Option.toList_some, List.flatMap_singleton] at left
    exact Raises.follow admits _ left _ _ _ failed
  | act given failed =>
    exact Raises.perform admits _ (left.left.right.item given) _ _ _ failed
  | check given failed => exact Raises.verify admits _ _ (left.right.item given) _ _ _ failed

structure AdmitsRun (σ : Type) {E : Type} [Host σ E] (P : Failure → Prop) : Prop
    extends Admits fun failure (_ : σ) => P failure where
  unfit {failure : Failure} : Unfit failure → P failure
  reported {page : PageContext} {cause : Failure} : P cause → P (.reported page cause)

namespace AdmitsRun

variable {P : Failure → Prop}

section Steps

variable (admits : AdmitsRun σ P)

include admits

theorem raise {α : Type} {debug : Bool} (holds : P failure) :
    Raises (fun failure _ => P failure) (Report.raise debug body failure : Check σ α) := by
  cases settled : debug || failure.isReported with
  | true =>
    rw [Report.raiseSettled settled]
    exact .throw fun _ => holds
  | false =>
    unfold Report.raise Report.wrap
    rw [if_neg (by simp [settled])]
    simp only [bind_assoc, pure_bind]
    refine (Raises.textOr _ _).bind fun _ => (Raises.textOr _ _).bind fun _ => ?_
    exact .throw fun _ => admits.reported holds

theorem within {α : Type} {debug : Bool} {part : Check σ α}
    (raises : Raises (fun failure _ => P failure) part) :
    Raises (fun failure _ => P failure) (Report.within debug body part) :=
  raises.tryCatch fun _ s holds => admits.raise holds s

theorem resolves (m : Mapping) (body : StepBody) :
    Raises (fun failure _ => P failure) (Check.ofExcept (body.resolve m) : Check σ StepBody) :=
  .ofExcept fun _ => (body.resolveFails m).mono fun _ => admits.unfit

omit admits in
theorem enters {entered : Option (Nested σ)}
    (inner : ∀ list ∈ entered, Raises (fun failure _ => P failure) list.run) :
    Raises (fun failure _ => P failure) (enterNoted entered) := by
  cases entered with
  | none => exact .pure _
  | some list => exact (Raises.emit _).bind fun _ => inner list rfl

theorem ofNested {entered : Option (Nested σ)} (body : StepBody)
    (inner : ∀ list ∈ entered, Raises (fun failure _ => P failure) list.run) :
    Raises (fun failure _ => P failure) (stepWith context body entered) := by
  rw [stepNoted]
  refine (admits.within (admits.resolves _ body)).bindGiven fun s resolved t ran => ?_
  obtain ⟨found, -⟩ := ofExceptOk (Report.withinEnds.mp ran)
  have left : Tolerates (fun failure (_ : σ) => P failure) resolved.references := by
    rw [StepBody.clears _ body resolved found]
    exact nofun
  have own : Raises (fun failure _ => P failure) (ownPhases (σ := σ) context resolved) :=
    ownPhasesFailAt.mono fun _ _ part => part.admitted admits.toAdmits left
  refine admits.within (own.bind fun counted => ?_) t
  cases counted with
  | none => exact .pure _
  | some counted => exact (enters inner).noting.bind fun _ => .pure _

end Steps

mutual

theorem step (admits : AdmitsRun σ P) : (first : Step) →
    Raises (fun failure _ => P failure) (Run.step (σ := σ) context first)
  | ⟨body, nested⟩ => by
    unfold Run.step
    refine admits.ofNested body fun list entered => ?_
    cases nested with
    | none => cases entered
    | some steps =>
      cases entered
      exact admits.steps steps 0

theorem steps (admits : AdmitsRun σ P) : (list : List Step) → (index : Nat) →
    Raises (fun failure _ => P failure) (Run.steps (σ := σ) context index list)
  | [], _ => by
    rw [Run.steps]
    exact .pure _
  | first :: rest, index => by
    rw [Run.steps]
    refine (admits.step first).bind fun (phase, counted) => .ite ?_ ?_
    · exact (Raises.emit _).bind fun _ => .pure _
    · exact (admits.steps rest (index + 1)).bind fun _ => .pure _

end

theorem scenario (admits : AdmitsRun σ P) (list : Scenario) :
    Raises (fun failure _ => P failure) (Run.scenario (σ := σ) context list) :=
  (admits.steps list 0).bind fun _ => (Raises.emit _).bind fun _ => .pure _

end AdmitsRun

end Run

end PageCheck
