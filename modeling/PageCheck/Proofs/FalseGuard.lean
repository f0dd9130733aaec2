import Mathlib.Algebra.GroupWithZero.Nat
import PageCheck.Proofs.GuardCourse
import PageCheck.Proofs.ListComposition
import PageCheck.Proofs.PhaseInvariant

/-!
Guards without effect. While a guard is evaluated only time passes, and no more than its questions
for elements may take. A step is aborted if and only if its guard is false, and has then done
nothing but evaluate it.
-/
namespace PageCheck

open Browser (World)

namespace Guard

def PassesWithin (limit : Condition → Nat) (asked : List Condition) (w v : World) : Prop :=
  ∃ elapsed ≤ (asked.map limit).sum, v = w.pass elapsed

def InTime {α : Type} (limit : Condition → Nat) (ask : Asking α) : Prop :=
  ∀ ⦃w item asked outcome v⦄, ask w item asked outcome v → PassesWithin limit asked w v

section Loops

variable {α : Type} {limit : Condition → Nat} {ask : Asking α} {going : Bool} {w u v : World}
  {items : List α} {asked more : List Condition}

theorem PassesWithin.append (first : PassesWithin limit asked w u)
    (next : PassesWithin limit more u v) : PassesWithin limit (asked ++ more) w v := by
  obtain ⟨time, short, rfl⟩ := first
  obtain ⟨later, short', rfl⟩ := next
  refine ⟨time + later, ?_, Poller.passTwice w time later⟩
  rw [List.map_append, List.sum_append]
  exact Nat.add_le_add short short'

theorem Along.inTime (each : InTime limit ask) (along : Along ask going w items asked v) :
    PassesWithin limit asked w v := by
  induction along with
  | none => exact ⟨0, Nat.le_refl 0, rfl⟩
  | next first _ ih => exact (each first).append ih

theorem InTime.course (each : InTime limit ask) : InTime limit (Course ask going) := by
  intro w items asked outcome v course
  cases course with
  | through along => exact along.inTime each
  | ends along last _ => exact (along.inTime each).append (each last)

end Loops

variable (settings : CheckSettings) (predicates : Predicates)

theorem asksOneInTime : InTime (Condition.waitLimit settings) (AsksOne settings predicates) := by
  rintro w c _ outcome v ⟨rfl, answered⟩
  obtain ⟨elapsed, _, ended, short, _⟩ := conditionTells settings predicates c w
  obtain ⟨-, rfl⟩ := resultInInj (answered.symm.trans ended)
  exact ⟨elapsed, by simpa using short, rfl⟩

theorem asksInTime : InTime (Condition.waitLimit settings) (Asks settings predicates) :=
  (asksOneInTime settings predicates).course.course

end Guard

namespace Run

variable {σ E : Type} [Host σ E] {context : RunContext}

def isAdmitted : Phase → Bool
  | .navigate | .actions | .checks | .nested | .done => true
  | .pending | .guardCheck | .aborted => false

theorem advanceAdmitted (body : StepBody) (nested : Option (Nested σ)) {phase : Phase}
    (admitted : isAdmitted phase = true) :
    Ensures (fun _ => True) (advance context body nested phase)
      fun result _ => isAdmitted result.1 = true := by
  have ignoring {α : Type} {x : Check σ α} : Ensures (fun _ => True) x fun _ _ => True :=
    fun _ _ _ _ _ => trivial
  cases phase with
  | pending => cases admitted
  | guardCheck => cases admitted
  | aborted => cases admitted
  | navigate => exact .bind ignoring fun _ => .pure fun _ _ => rfl
  | actions => exact .bind ignoring fun _ => .pure fun _ _ => rfl
  | checks => exact .bind ignoring fun _ => .bind ignoring fun _ => .pure fun _ _ => rfl
  | nested =>
    cases nested with
    | none => exact .pure fun _ _ => rfl
    | some list => exact .bind ignoring fun _ => .bind ignoring fun _ => .pure fun _ _ => rfl
  | done => exact .pure fun _ _ => rfl

theorem phasesAdmitted (body : StepBody) (nested : Option (Nested σ)) (limit : Nat) {phase : Phase}
    (admitted : isAdmitted phase = true) :
    Ensures (fun _ => True) (phases context body nested limit phase)
      fun result _ => isAdmitted result.1 = true := by
  induction limit generalizing phase with
  | zero => exact .pure fun _ _ => admitted
  | succ limit ih =>
    have work : Ensures (fun _ => True)
        (Report.within context.settings.debug body (advance context body nested phase))
        fun found _ => True ∧ isAdmitted found.1 = true :=
      (withinEnsures _ body (advanceAdmitted body nested admitted)).weaken
        (fun _ held => held) fun _ _ held => ⟨trivial, held⟩
    refine work.bind fun found => ?_
    refine .bind (emitEnsures _ fun _ held => held) fun _ => ?_
    refine .ite (fun _ => .pure fun _ held => held.2) fun _ => ?_
    exact .given fun admitted => (ih admitted).bind fun _ => .pure fun _ ended => ended

section Aborted

variable {body : StepBody} {nested : Option (Nested σ)} {s t u : σ} {counted : Tally}

theorem admittedNotAborted (limit : Nat) {phase : Phase} (admitted : isAdmitted phase = true) :
    phases context body nested limit phase s ≠ .ok (.aborted, counted) t :=
  fun aborted => nomatch phasesAdmitted body nested limit admitted s _ t trivial aborted

theorem phasesFail {phase : Phase} {failure : Failure} (limit : Nat)
    (failed : advance context body nested phase s = .error failure u) :
    phases context body nested (limit + 1) phase s ≠ .ok (.aborted, counted) t := by
  obtain ⟨told, v, raised, -⟩ :=
    Report.raiseFails (α := Phase × Tally) context.settings.debug body failure u
  have ended : phases context body nested (limit + 1) phase s = .error told v :=
    bindOfError ((Report.withinOfError failed).trans raised) _
  rw [ended]
  exact nofun

theorem phasesEnd {phase next : Phase} (limit : Nat) (final : isFinal next = true)
    (ran : advance context body nested phase s = .ok (next, counted) u) :
    phases context body nested (limit + 1) phase s =
      .ok (next, counted + .oneStep) (Clock.emit (.transition next) u) := by
  have logged : (Check.emit (.transition next) : Check σ Unit) u =
      .ok () (Clock.emit (.transition next) u) := rfl
  refine (bindOfOk (Report.withinOfOk ran) _).trans ((bindOfOk logged _).trans ?_)
  simp only [final, if_true]
  rfl

theorem phasesGoOn {phase next : Phase} (limit : Nat) (ongoing : isFinal next = false)
    (ran : advance context body nested phase s = .ok (next, .none) u) :
    phases context body nested (limit + 1) phase s =
      phases context body nested limit next (Clock.emit (.transition next) u) := by
  have logged : (Check.emit (.transition next) : Check σ Unit) u =
      .ok () (Clock.emit (.transition next) u) := rfl
  refine (bindOfOk (Report.withinOfOk ran) _).trans ((bindOfOk logged _).trans ?_)
  simp only [ongoing, Bool.false_eq_true, if_false, Tally.noneAdd]
  exact congrFun (bind_pure _) _

theorem guardCheckAborts (limit : Nat) :
    phases context body nested (limit + 1) .guardCheck s = .ok (.aborted, counted) t ↔
      counted = .oneStep ∧
        ∃ u, guardHolds context body s = .ok false u ∧ t = Clock.emit (.transition .aborted) u := by
  have does := congrFun (advanceGuardCheck context body nested) s
  cases asked : guardHolds context body s with
  | error failure u =>
    exact iff_of_false (phasesFail limit (does.trans (bindOfError asked _))) nofun
  | ok holds u =>
    have ran := does.trans (bindOfOk asked _)
    cases holds with
    | false =>
      rw [phasesEnd limit rfl ran]
      constructor
      · rintro ⟨⟩
        exact ⟨rfl, u, rfl, rfl⟩
      · rintro ⟨rfl, _, ⟨⟩, rfl⟩
        rfl
    | true =>
      rw [phasesGoOn limit rfl ran]
      exact iff_of_false (admittedNotAborted limit rfl) nofun

theorem pendingAborts (limit : Nat) :
    phases context body nested (limit + 2) .pending s = .ok (.aborted, counted) t ↔
      counted = .oneStep ∧
        ∃ u, guardHolds context body (Clock.emit (.transition .guardCheck) s) = .ok false u ∧
          t = Clock.emit (.transition .aborted) u := by
  have does : advance context body nested .pending s =
    .ok (if body.execif.isSome then .guardCheck else .navigate, .none) s := rfl
  cases guarded : body.execif with
  | none =>
    rw [guarded] at does
    rw [phasesGoOn (limit + 1) rfl does]
    refine iff_of_false (admittedNotAborted (limit + 1) rfl) ?_
    rintro ⟨-, u, fails, -⟩
    obtain ⟨guard, given, -⟩ := guardHoldsFalse.mp fails
    cases guarded.symm.trans given
  | some guard =>
    rw [guarded] at does
    rw [phasesGoOn (limit + 1) rfl does]
    exact guardCheckAborts limit

theorem stepAborted {first : Step} :
    step context first s = .ok (.aborted, counted) t ↔
      counted = .oneStep ∧ ∃ u,
        GuardFails context first (Clock.emit (.transition .guardCheck) s) u ∧
        t = Clock.emit (.transition .aborted) u := by
  obtain ⟨body, nested⟩ := first
  unfold step stepWith
  cases found : body.resolve context.mapping with
  | error failure =>
    obtain ⟨told, v, raised, -⟩ :=
      Report.raiseFails (α := StepBody) context.settings.debug body failure s
    have failed : (Check.ofExcept (.error failure) : Check σ StepBody) s = .error failure s := rfl
    rw [bindOfError ((Report.withinOfError failed).trans raised)]
    refine iff_of_false nofun ?_
    rintro ⟨-, u, ⟨resolved, guard, found', -⟩, -⟩
    cases found.symm.trans found'
  | ok resolved =>
    have fails {u v : σ} : GuardFails context ⟨body, nested⟩ u v ↔
        guardHolds context resolved u = .ok false v := (guardFails found).trans ownWorkNone
    simp only [fails]
    exact pendingAborts 4

end Aborted

theorem guardLeavesNoTrace :
    (∀ (settings : CheckSettings) (predicates : Predicates) (g : Guard) (w : World),
      ∃ asked outcome elapsed,
        g.evaluate settings predicates w = resultIn outcome { w with now := w.now + elapsed } ∧
        Guard.Asks settings predicates w g asked outcome { w with now := w.now + elapsed } ∧
        elapsed ≤ (asked.map (Condition.waitLimit settings)).sum) ∧
    (∀ (context : RunContext) (first : Step) (w w' : World) (counted : Tally),
      step context first w = .ok (.aborted, counted) w' →
      ∃ resolved guard asked elapsed,
        first.body.resolve context.mapping = .ok resolved ∧ resolved.execif = some guard ∧
        Guard.Asks context.settings context.predicates w guard asked (.ok false) w' ∧
        w' = { w with now := w.now + elapsed } ∧
        elapsed ≤ (asked.map (Condition.waitLimit context.settings)).sum) ∧
    ∀ {σ E : Type} [Host σ E] (context : RunContext) (first : Step) (s t : σ) (counted : Tally),
      step context first s = .ok (.aborted, counted) t ↔
        counted = .oneStep ∧ ∃ u,
          GuardFails context first (Clock.emit (.transition .guardCheck) s) u ∧
          t = Clock.emit (.transition .aborted) u := by
  refine ⟨fun settings predicates g w => ?_, fun context first w w' counted aborted => ?_,
    fun _ _ _ _ _ => stepAborted⟩
  · obtain ⟨outcome, v, ended⟩ := resultInOf (g.evaluate settings predicates) w
    obtain ⟨asked, asks⟩ := (Guard.evaluateDescribed settings predicates).mp ended
    obtain ⟨elapsed, short, rfl⟩ := Guard.asksInTime settings predicates asks
    exact ⟨asked, outcome, elapsed, ended, asks, short⟩
  · obtain ⟨-, u, ⟨resolved, guard, found, guarded, fails⟩, logged⟩ := stepAborted.mp aborted
    obtain rfl : w' = u := logged
    have fails : guard.evaluate context.settings context.predicates w = resultIn (.ok false) w' :=
      fails
    obtain ⟨asked, asks⟩ := (Guard.evaluateDescribed _ _).mp fails
    obtain ⟨elapsed, short, same⟩ := Guard.asksInTime _ _ asks
    exact ⟨resolved, guard, asked, elapsed, found, guarded, asks, same, short⟩

def early : Step :=
  { body := { StepBody.empty with
      url := some (.value "http://nowhere/")
      execif := some [[.assertion {
        demand := .present { target := .value greeting, count := none }, timeout := some 20 }]] }
    nested := some [.checking [greets (.value greeting)]] }

theorem okOfRun {α : Type} {x : Check σ α} {s : σ} {value : α} (ran : x.run' s = some value) :
    ∃ t, x s = .ok value t := by
  unfold EStateM.run' EStateM.run at ran
  cases ended : x s with
  | ok found t =>
    rw [ended] at ran
    exact ⟨t, Option.some.inj ran ▸ rfl⟩
  | error failure t =>
    rw [ended] at ran
    cases ran

theorem earlyStepLeavesNoTrace : ∃ w',
    step ⟨.default, [], []⟩ early greetingPage = .ok (.aborted, .oneStep) w' ∧
    ∃ resolved guard asked elapsed,
      early.body.resolve [] = .ok resolved ∧ resolved.execif = some guard ∧
      Guard.Asks .default [] greetingPage guard asked (.ok false) w' ∧
      w' = { greetingPage with now := greetingPage.now + elapsed } ∧
      elapsed ≤ (asked.map (Condition.waitLimit .default)).sum := by
  have ran : (step ⟨.default, [], []⟩ early).run' greetingPage = some (.aborted, .oneStep) := by
    decide +kernel
  obtain ⟨w', aborted⟩ := okOfRun ran
  exact ⟨w', aborted, guardLeavesNoTrace.2.1 _ _ _ _ _ aborted⟩

end Run

end PageCheck
