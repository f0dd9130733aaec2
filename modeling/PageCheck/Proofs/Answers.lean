import PageCheck.Guard.Evaluate
import PageCheck.Proofs.DemandTruth
import PageCheck.Proofs.StraightStep
import PageCheck.Proofs.Verdict

/-!
What checks and guards answer. A check passes, and a condition of a guard is true, if and only if
the demand is true of the page on which it ends. What goes wrong on the page makes a check fail and
a condition false; mistakes of the scenario are told by both.
-/
namespace PageCheck

open Browser (World)

def answerOf {σ α : Type} (x : Check σ α) (s : σ) : Except Failure α :=
  match x s with
  | .ok value _ => .ok value
  | .error failure _ => .error failure

theorem answerOfResult {σ α : Type} {x : Check σ α} {s t : σ} {outcome : Except Failure α}
    (ended : x s = resultIn outcome t) : answerOf x s = outcome := by
  rw [answerOf, ended]
  cases outcome <;> rfl

def lenient : Except Failure Bool → Except Failure Bool
  | .ok value => .ok value
  | .error failure => if failure.isConfiguration then .error failure else .ok false

theorem lenientMistake {failure : Failure} (configuration : failure.isConfiguration = true) :
    lenient (.error failure) = .error failure :=
  if_pos configuration

theorem lenientError {outcome : Except Failure Bool} {failure : Failure}
    (failed : lenient outcome = .error failure) : failure.isConfiguration = true := by
  cases outcome with
  | ok value => cases failed
  | error cause =>
    by_cases configuration : cause.isConfiguration = true
    · rw [lenientMistake configuration] at failed
      cases failed
      exact configuration
    · rw [lenient, if_neg configuration] at failed
      cases failed

theorem lenientTrue {outcome : Except Failure Bool} :
    lenient outcome = .ok true ↔ outcome = .ok true := by
  cases outcome with
  | ok value => exact Iff.rfl
  | error cause =>
    refine iff_of_false (fun told => ?_) nofun
    change (if cause.isConfiguration then Except.error cause else .ok false) = _ at told
    split at told <;> cases told

theorem lenientAnswer {directive : String} {question : Check World Bool} {w t : World}
    {outcome : Except Failure Bool} (asked : question w = resultIn outcome t) :
    Assertion.leniently directive question w = resultIn (lenient outcome) t := by
  show EStateM.tryCatch question _ w = _
  delta EStateM.tryCatch
  rw [asked]
  cases outcome with
  | ok value => rfl
  | error failure =>
    show ((if failure.isConfiguration then throw failure
      else do
        Check.emit (.guardFailed directive failure.message)
        return false) : Check World Bool) t = resultIn (if _ then _ else _) t
    cases failure.isConfiguration <;> rfl

theorem negatedAnswer {question : Check World Bool} {w t : World} {outcome : Except Failure Bool}
    (asked : question w = resultIn outcome t) :
    (not <$> question) w = resultIn (outcome.map not) t := by
  rw [map_eq_pure_bind]
  cases outcome with
  | ok value => exact bindOfOk asked _
  | error failure => exact bindOfError asked _

def asQuestion (outcome : Except Failure Unit) : Except Failure Bool :=
  lenient (outcome.map fun _ => true)

theorem passesIff {outcome : Except Failure Unit} :
    asQuestion outcome = .ok true ↔ outcome = .ok () := by
  refine lenientTrue.trans ?_
  cases outcome with
  | ok value => exact ⟨fun _ => rfl, fun _ => rfl⟩
  | error failure => exact iff_of_false nofun nofun

theorem mistakenIff {outcome : Except Failure Unit} {failure : Failure} :
    asQuestion outcome = .error failure ↔
      outcome = .error failure ∧ failure.isConfiguration = true := by
  constructor
  · intro failed
    have configuration := lenientError failed
    cases outcome with
    | ok value => cases failed
    | error cause =>
      change (if cause.isConfiguration then Except.error cause else .ok false) = _ at failed
      split at failed <;> cases failed
      exact ⟨rfl, configuration⟩
  · rintro ⟨rfl, configuration⟩
    exact lenientMistake configuration

theorem Concludes.afterLastLook {α β ω : Type} {judge : Nat → World → Except Failure β → Prop}
    (p : Poller) {look : Check World (Attempt α ω)} {view : World → Except Failure (Attempt α ω)}
    (sees : ∀ page, Sees page look (view page)) {next : Polled α ω → Check World β} {w : World}
    (ended : ∀ elapsed ≤ p.timeout, ∀ attempt, view (w.pass elapsed) = .ok attempt →
      ∃ outcome, Sees (w.pass elapsed) (next (Poller.ending attempt)) outcome ∧
        judge elapsed (w.pass elapsed) outcome)
    (failed : ∀ elapsed ≤ p.timeout, ∀ failure, view (w.pass elapsed) = .error failure →
      judge elapsed (w.pass elapsed) (.error failure)) :
    Concludes judge (p.run look >>= next) w := by
  obtain ⟨elapsed, inTime, polled⟩ := p.runLast sees w
  cases seen : view (w.pass elapsed) with
  | ok attempt =>
    rw [seen] at polled
    obtain ⟨outcome, concluded, judged⟩ := ended elapsed inTime attempt seen
    exact ⟨elapsed, outcome, (bindOfOk polled next).trans concluded, judged⟩
  | error failure =>
    rw [seen] at polled
    exact ⟨elapsed, .error failure, bindOfError polled next, failed elapsed inTime failure seen⟩

def Tells {α : Type} (read : Except Failure α → Except Failure Bool) (limit : Nat)
    (truth : World → Except Failure Bool) (elapsed : Nat) (page : World)
    (outcome : Except Failure α) : Prop :=
  elapsed ≤ limit ∧ read outcome = lenient (truth page)

namespace Tells

variable {limit elapsed : Nat} {truth : World → Except Failure Bool} {page : World}
  {failure : Failure}

theorem passed (inTime : elapsed ≤ limit) (told : truth page = .ok true) :
    Tells asQuestion limit truth elapsed page (.ok ()) :=
  ⟨inTime, by rw [told]; rfl⟩

theorem failed (inTime : elapsed ≤ limit) (told : truth page = .ok false)
    (onPage : failure.isConfiguration = false) :
    Tells asQuestion limit truth elapsed page (.error failure) := by
  refine ⟨inTime, ?_⟩
  rw [told]
  exact if_neg (by simp [onPage])

theorem mistaken (inTime : elapsed ≤ limit) (told : truth page = .error failure) :
    Tells asQuestion limit truth elapsed page (.error failure) :=
  ⟨inTime, by rw [told]; rfl⟩

end Tells

theorem Concludes.answer {α : Type} {read : Except Failure α → Except Failure Bool} {limit : Nat}
    {truth : World → Except Failure Bool} {x : Check World α} {w : World}
    (steady : ∀ time, truth (w.pass time) = truth w)
    (concludes : Concludes (Tells read limit truth) x w) :
    read (answerOf x w) = lenient (truth w) := by
  obtain ⟨elapsed, outcome, ended, -, told⟩ := concludes
  rw [answerOfResult ended, told, steady]

variable {predicates : Predicates}

theorem presentTells (presence : Presence) (p : Poller) (w : World) :
    Concludes (Tells asQuestion p.timeout ((Demand.present presence).truth predicates))
      (Assertion.verifyPresent presence p) w := by
  cases target : presence.target with
  | reference placeholder =>
    exact .afterFault (congrArg Deferred.get target)
      (.mistaken (Nat.zero_le _) (presentUnresolved predicates target w))
  | value l =>
    refine .afterLiteral (congrArg Deferred.get target) ?_
    refine .afterLastLook p (fun page => page.lookForElementsSees l presence.count) ?_ nofun
    intro elapsed inTime attempt seen
    have told := presentTruth predicates target (w.pass elapsed)
    rw [Except.ok.inj seen] at told
    cases attempt with
    | done found => exact ⟨_, .pure (), .passed inTime told⟩
    | again matched => exact ⟨_, .throw _, .failed inTime told rfl⟩

theorem absentTells (presence : Presence) (p : Poller) (w : World) :
    Concludes (Tells asQuestion p.timeout ((Demand.absent presence).truth predicates))
      (Assertion.verifyAbsent presence p) w := by
  cases target : presence.target with
  | reference placeholder =>
    exact .afterFault (congrArg Deferred.get target)
      (.mistaken (Nat.zero_le _) (absentUnresolved predicates target w))
  | value l =>
    refine .afterLiteral (congrArg Deferred.get target) ?_
    refine .afterLastLook p (fun page => page.lookForAbsenceSees l) ?_ nofun
    intro elapsed inTime attempt seen
    have told := absentTruth predicates target (w.pass elapsed)
    rw [Except.ok.inj seen] at told
    cases attempt with
    | done gone => exact ⟨_, .pure (), .passed inTime told⟩
    | again visible => exact ⟨_, .throw _, .failed inTime told rfl⟩

theorem comparisonTells {comparison : Comparison} {check : ValueCheck}
    (made : ValueCheck.ofComparison predicates comparison = .ok check) (p : Poller) (w : World) :
    Concludes (Tells asQuestion p.timeout ((Demand.compare comparison).truth predicates))
      (check.verify p) w := by
  refine .afterLastLook p (fun page => page.comparedSees check) ?ended ?mistaken
  case ended =>
    intro elapsed inTime attempt seen
    have told := comparisonTruth made (w.pass elapsed)
    rw [seen] at told
    match attempt with
    | .done () => exact ⟨_, .pure (), .passed inTime told⟩
    | .again (some found) =>
      exact ⟨_, Sees.bind (.pure ()) (.throw _), .failed inTime told rfl⟩
    | .again none => exact ⟨_, .throw _, .failed inTime told rfl⟩
  case mistaken =>
    intro elapsed inTime failure seen
    have told := comparisonTruth made (w.pass elapsed)
    rw [seen] at told
    exact .mistaken inTime told

theorem verifyTells (settings : CheckSettings) (predicates : Predicates) (a : Assertion)
    (w : World) :
    Concludes (Tells asQuestion (a.timeout.getD settings.timeout) (a.demand.truth predicates))
      (a.verify settings predicates) w := by
  refine .afterEvent _ ?_
  cases demand : a.demand with
  | present presence => exact presentTells presence (a.poller settings) w
  | absent presence => exact absentTells presence (a.poller settings) w
  | compare comparison =>
    cases made : ValueCheck.ofComparison predicates comparison with
    | ok check => exact .afterLiteral made (comparisonTells made (a.poller settings) w)
    | error failure =>
      exact .afterFault made (.mistaken (Nat.zero_le _) (comparisonMistaken made w))

theorem locatedTells (predicates : Predicates) (presence : Presence) (p : Poller) (w : World) :
    Concludes (fun elapsed page outcome =>
      elapsed ≤ p.timeout ∧ outcome = (Demand.present presence).truth predicates page)
      (Assertion.located presence p) w := by
  unfold Assertion.located Assertion.await
  rw [bind_assoc]
  cases target : presence.target with
  | reference placeholder =>
    exact .afterFault rfl ⟨Nat.zero_le _, (presentUnresolved predicates target w).symm⟩
  | value l =>
    refine .afterLiteral rfl ?_
    refine .afterLastLook p (fun page => page.lookForElementsSees l presence.count) ?_ nofun
    intro elapsed inTime attempt seen
    have told := presentTruth predicates target (w.pass elapsed)
    rw [Except.ok.inj seen] at told
    cases attempt with
    | done found => exact ⟨_, .pure true, inTime, told.symm⟩
    | again matched => exact ⟨_, .pure false, inTime, told.symm⟩

def Condition.waitLimit (settings : CheckSettings) : Condition → Nat
  | .flag _ => 0
  | .assertion a =>
    match a.demand with
    | .present _ | .absent _ => a.timeout.getD settings.timeout
    | .compare _ => 0

def Condition.truth (predicates : Predicates) (page : World) : Condition → Except Failure Bool
  | .flag value => value.get
  | .assertion a => a.demand.guardTruth predicates page

theorem Browser.World.Still.conditionTruth {w : World} (still : w.Still) (time : Nat)
    (predicates : Predicates) (c : Condition) :
    c.truth predicates (w.pass time) = c.truth predicates w := by
  cases c with
  | flag value => rfl
  | assertion a => exact still.guardTruth time predicates a.demand

theorem conditionTells (settings : CheckSettings) (predicates : Predicates) (c : Condition)
    (w : World) :
    Concludes (Tells id (c.waitLimit settings) (c.truth predicates))
      (Guard.condition settings predicates c) w := by
  cases c with
  | flag value =>
    cases value with
    | value literal => exact ⟨0, .ok literal, rfl, Nat.le_refl 0, rfl⟩
    | reference placeholder => exact ⟨0, .error _, rfl, Nat.le_refl 0, rfl⟩
  | assertion a =>
    obtain ⟨demand, timeout⟩ := a
    cases demand with
    | present presence =>
      obtain ⟨elapsed, outcome, ended, inTime, told⟩ :=
        locatedTells predicates presence
          (Assertion.poller settings ⟨.present presence, timeout⟩) w
      exact ⟨elapsed, lenient outcome, lenientAnswer ended, inTime, congrArg lenient told⟩
    | absent presence =>
      obtain ⟨elapsed, outcome, ended, inTime, told⟩ :=
        locatedTells predicates presence
          (Assertion.poller settings ⟨.absent presence, timeout⟩) w
      refine ⟨elapsed, _, lenientAnswer (negatedAnswer ended), inTime, ?_⟩
      exact congrArg (fun truth => lenient (Except.map not truth)) told
    | compare comparison =>
      cases made : ValueCheck.ofComparison predicates comparison with
      | ok check =>
        refine .afterLiteral made ⟨0, _, lenientAnswer (w.holdsNowSees check), Nat.le_refl 0, ?_⟩
        exact congrArg lenient (comparisonTruth made w).symm
      | error failure =>
        refine .afterFault made ⟨Nat.le_refl 0, ?_⟩
        have told := congrArg lenient (comparisonMistaken made w)
        rw [lenientMistake (ValueCheck.ofComparisonMistake made)] at told
        exact told.symm

theorem verifyAnswer {w : World} (still : w.Still) (settings : CheckSettings)
    (predicates : Predicates) (a : Assertion) :
    asQuestion (answerOf (a.verify settings predicates) w) =
      lenient (a.demand.truth predicates w) :=
  (verifyTells settings predicates a w).answer fun time => still.truth time predicates a.demand

theorem conditionAnswer {w : World} (still : w.Still) (settings : CheckSettings)
    (predicates : Predicates) (c : Condition) :
    answerOf (Guard.condition settings predicates c) w = lenient (c.truth predicates w) :=
  (conditionTells settings predicates c w).answer fun time =>
    still.conditionTruth time predicates c

end PageCheck
