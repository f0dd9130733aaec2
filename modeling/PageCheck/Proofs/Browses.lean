import PageCheck.Proofs.Acts

/-!
Two hosts whose operations are all alike run every scenario alike: the phases of a step, lists of
steps, and nested lists at every depth.
-/
namespace PageCheck

variable {σ τ E : Type} [Host σ E] [Host τ E]

structure Browses (R : σ → τ → Prop) : Prop extends Acts R where
  goto (url : String) : Alike R (Host.goto (σ := σ) url) (Host.goto (σ := τ) url)
  drainConsole : Alike R (Host.drainConsole (σ := σ)) (Host.drainConsole (σ := τ))

namespace Browses

variable {R : σ → τ → Prop}

theorem scanConsole (h : Browses R) :
    Alike R (Run.scanConsole (σ := σ)) (Run.scanConsole (σ := τ)) := by
  refine h.currentUrl.ask.bind fun url => h.drainConsole.ask.bind fun entries => ?_
  cases Console.scan url entries with
  | none => exact .pure _
  | some failure => exact .throw _

theorem navigate (h : Browses R) (settings : CheckSettings) (body : StepBody) :
    Alike R (Run.navigate (σ := σ) settings body) (Run.navigate (σ := τ) settings body) := by
  have done : Alike R (do Run.scanConsole (σ := σ); return true)
      (do Run.scanConsole (σ := τ); return true) := h.scanConsole.bind fun _ => .pure _
  refine .ite (fun _ => h.scanConsole.bind fun _ => ?_) fun _ => .pure _
  cases body.url <;> cases body.link
  case none.none => exact done
  case none.some link => exact (h.follow settings link).bind fun _ => done
  case some.none url => exact (h.visit settings url h.goto).bind fun _ => done
  case some.some url link =>
    exact (h.visit settings url h.goto).bind fun _ =>
      (h.follow settings link).bind fun _ => done

omit [Host σ E] [Host τ E] in
theorem forEach {α : Type} {act : α → Check σ Unit} {act' : α → Check τ Unit}
    (same : ∀ item, Alike R (act item) (act' item)) (items : List α) :
    Alike R (Run.forEach act items) (Run.forEach act' items) := by
  induction items with
  | nil => exact .pure _
  | cons first rest ih => exact (same first).bind fun _ => ih

inductive SameNested (R : σ → τ → Prop) : Option (Run.Nested σ) → Option (Run.Nested τ) → Prop where
  | none : SameNested R none none
  | some {length run run'} (same : Alike R run run') :
    SameNested R (some { length, run }) (some { length, run := run' })

theorem advance (h : Browses R) (context : RunContext) (body : StepBody)
    {nested : Option (Run.Nested σ)} {nested' : Option (Run.Nested τ)}
    (same : SameNested R nested nested') (phase : Phase) :
    Alike R (Run.advance context body nested phase) (Run.advance context body nested' phase) := by
  cases phase with
  | pending => exact .pure _
  | guardCheck =>
    have finish (holds : Bool) : Alike R
        (pure (if holds then Phase.navigate else .aborted, Tally.none) : Check σ (Phase × Tally))
        (pure (if holds then Phase.navigate else .aborted, Tally.none)) := .pure _
    unfold Run.advance
    cases body.execif with
    | none => exact (Alike.pure true).bind finish
    | some guard => exact (h.evaluate context.settings context.predicates guard).bind finish
  | navigate => exact (h.navigate context.settings body).bind fun _ => .pure _
  | actions => exact (forEach (h.perform context.settings) body.actions).bind fun _ => .pure _
  | checks =>
    refine (forEach (h.verify context.settings context.predicates) body.checks).bind fun _ => ?_
    exact h.scanConsole.bind fun _ => .pure _
  | nested =>
    cases same with
    | none => exact .pure _
    | some same => exact (h.checkEmit _).bind fun _ => same.bind fun _ => .pure _
  | done => exact .pure _
  | aborted => exact .pure _

theorem phases (h : Browses R) (context : RunContext) (body : StepBody)
    {nested : Option (Run.Nested σ)} {nested' : Option (Run.Nested τ)}
    (same : SameNested R nested nested') (limit : Nat) (phase : Phase) :
    Alike R (Run.phases context body nested limit phase)
      (Run.phases context body nested' limit phase) := by
  induction limit generalizing phase with
  | zero => exact .pure _
  | succ limit ih =>
    refine (h.within _ body (h.advance context body same phase)).bind fun (next, counted) => ?_
    refine (h.checkEmit _).bind fun _ => .ite (fun _ => .pure _) fun _ => ?_
    exact (ih next).bind fun _ => .pure _

theorem stepWith (h : Browses R) (context : RunContext) (body : StepBody)
    {nested : Option (Run.Nested σ)} {nested' : Option (Run.Nested τ)}
    (same : SameNested R nested nested') :
    Alike R (Run.stepWith context body nested) (Run.stepWith context body nested') :=
  (h.within _ body (.ofExcept _)).bind fun resolved => h.phases context resolved same _ _

mutual

theorem step (h : Browses R) (context : RunContext) :
    (s : Step) → Alike R (Run.step (σ := σ) context s) (Run.step (σ := τ) context s)
  | ⟨body, nested⟩ => by
    unfold Run.step
    exact h.stepWith context body (h.nestedOf context nested)

theorem nestedOf (h : Browses R) (context : RunContext) :
    (nested : Option (List Step)) →
      SameNested R (Run.nestedOf (σ := σ) context nested) (Run.nestedOf (σ := τ) context nested)
  | none => by unfold Run.nestedOf; exact .none
  | some list => by unfold Run.nestedOf; exact .some (h.steps context 0 list)

theorem steps (h : Browses R) (context : RunContext) :
    (index : Nat) → (list : List Step) →
      Alike R (Run.steps (σ := σ) context index list) (Run.steps (σ := τ) context index list)
  | _, [] => by unfold Run.steps; exact .pure _
  | index, first :: rest => by
    unfold Run.steps
    refine (h.step context first).bind fun (phase, counted) => .ite (fun _ => ?_) fun _ => ?_
    · exact (h.checkEmit _).bind fun _ => .pure _
    · exact (h.steps context (index + 1) rest).bind fun _ => .pure _

end

theorem scenario (h : Browses R) (context : RunContext) (s : Scenario) :
    Alike R (Run.scenario (σ := σ) context s) (Run.scenario (σ := τ) context s) :=
  (h.steps context 0 s).bind fun _ => (h.checkEmit _).bind fun _ => .pure _

end Browses

end PageCheck
