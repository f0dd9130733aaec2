import PageCheck.Proofs.StillPage

/-!
The truth of a demand on a page as it is: what looks at the page give, taken together. Demands that
hold a reference, name no known predicate or compare many values as one have none; they are mistakes
of the scenario. On a page that stands still the truth is the same at all times.
-/
namespace PageCheck

open Browser (World)

def Attempt.isDone {α ω : Type} : Attempt α ω → Bool
  | .done _ => true
  | .again _ => false

def Browser.World.compared (w : World) (check : ValueCheck) :
    Except Failure (Attempt Unit (Option Extracted)) :=
  match check.target with
  | .element (.reference placeholder) => .error (.scenario (.unresolved placeholder.key))
  | _ => w.valuesSeen check

def Demand.truth (predicates : Predicates) (page : World) : Demand → Except Failure Bool
  | .present presence => do
    return (page.presenceSeen (← presence.target.get) presence.count).isDone
  | .absent presence => do return (page.absenceSeen (← presence.target.get)).isDone
  | .compare comparison => do
    let check ← ValueCheck.ofComparison predicates comparison
    (page.compared check).map Attempt.isDone

def Demand.guardTruth (predicates : Predicates) (page : World) : Demand → Except Failure Bool
  | .absent presence => (Demand.truth predicates page (.present presence)).map not
  | demand => demand.truth predicates page

section Demands

variable {predicates : Predicates} {presence : Presence} {l : Locator} {placeholder : Placeholder}

theorem presentTruth (predicates : Predicates) (target : presence.target = .value l)
    (page : World) :
    (Demand.present presence).truth predicates page =
      .ok (page.presenceSeen l presence.count).isDone := by
  rw [Demand.truth, target]
  rfl

theorem presentUnresolved (predicates : Predicates)
    (target : presence.target = .reference placeholder) (page : World) :
    (Demand.present presence).truth predicates page =
      .error (.scenario (.unresolved placeholder.key)) := by
  rw [Demand.truth, target]
  rfl

theorem absentTruth (predicates : Predicates) (target : presence.target = .value l)
    (page : World) :
    (Demand.absent presence).truth predicates page = .ok (page.absenceSeen l).isDone := by
  rw [Demand.truth, target]
  rfl

theorem absentUnresolved (predicates : Predicates)
    (target : presence.target = .reference placeholder) (page : World) :
    (Demand.absent presence).truth predicates page =
      .error (.scenario (.unresolved placeholder.key)) := by
  rw [Demand.truth, target]
  rfl

theorem comparisonTruth {comparison : Comparison} {check : ValueCheck}
    (made : ValueCheck.ofComparison predicates comparison = .ok check) (page : World) :
    (Demand.compare comparison).truth predicates page =
      (page.compared check).map Attempt.isDone := by
  rw [Demand.truth, made]
  rfl

theorem comparisonMistaken {comparison : Comparison} {failure : Failure}
    (mistake : ValueCheck.ofComparison predicates comparison = .error failure) (page : World) :
    (Demand.compare comparison).truth predicates page = .error failure := by
  rw [Demand.truth, mistake]
  rfl

end Demands

namespace Browser.World

variable {w : World} {check : ValueCheck} {placeholder : Placeholder}

theorem sampleUnresolved (w : World) (target : check.target = .element (.reference placeholder)) :
    Sees w check.sample (.error (.scenario (.unresolved placeholder.key))) := by
  have read : Sees w (Extract.fromTarget check.target check.kind)
      (.error (.scenario (.unresolved placeholder.key))) := by
    rw [target]
    exact (Sees.ofExcept (.error _)).bindError _
  exact read.tryCatchError (.throw _)

theorem comparedSees (w : World) (check : ValueCheck) : Sees w check.look (w.compared check) := by
  unfold compared
  split
  · next placeholder target => exact (w.sampleUnresolved target).bindError _
  · next literal => exact w.lookSees literal

theorem holdsNowSees (w : World) (check : ValueCheck) :
    Sees w check.holdsNow ((w.compared check).map Attempt.isDone) := by
  unfold compared
  split
  · next placeholder target => exact (w.sampleUnresolved target).bindError _
  · next literal =>
    have sampled := w.sampleSees literal
    unfold valuesSeen
    generalize w.extraction check.kind check.target = found at sampled ⊢
    refine sampled.bind ?_
    cases found with
    | none => exact .pure _
    | some found =>
      have decided := Sees.ofExcept (s := w) (check.holds found)
      dsimp only
      generalize check.holds found = outcome at decided ⊢
      match outcome with
      | .error failure => exact decided
      | .ok true => exact decided
      | .ok false => exact decided

end Browser.World

namespace Browser.World.Still

variable {w : World}

theorem compared (still : w.Still) (time : Nat) (check : ValueCheck) :
    (w.pass time).compared check = w.compared check := by
  unfold World.compared
  split
  · rfl
  · exact still.valuesSeen time check

theorem truth (still : w.Still) (time : Nat) (predicates : Predicates) (demand : Demand) :
    demand.truth predicates (w.pass time) = demand.truth predicates w := by
  cases demand with
  | present presence => simp only [Demand.truth, still.presenceSeen]
  | absent presence => simp only [Demand.truth, still.absenceSeen]
  | compare comparison => simp only [Demand.truth, still.compared]

theorem guardTruth (still : w.Still) (time : Nat) (predicates : Predicates) (demand : Demand) :
    demand.guardTruth predicates (w.pass time) = demand.guardTruth predicates w := by
  cases demand with
  | absent presence => exact congrArg (Except.map not) (still.truth time predicates _)
  | present presence => exact still.truth time predicates (.present presence)
  | compare comparison => exact still.truth time predicates (.compare comparison)

end Browser.World.Still

theorem Deferred.getMistake {α : Type} {d : Deferred α} {failure : Failure}
    (failed : d.get = .error failure) : failure.isConfiguration = true := by
  cases d <;> cases failed
  rfl

namespace ValueCheck

theorem literalsMistake {values : List (Deferred String)} {failure : Failure}
    (failed : literals values = .error failure) : failure.isConfiguration = true := by
  induction values with
  | nil => cases failed
  | cons first rest ih =>
    unfold literals at failed
    cases read : first.get with
    | error cause =>
      rw [read] at failed
      cases failed
      exact Deferred.getMistake read
    | ok value =>
      rw [read] at failed
      cases others : literals rest with
      | error cause =>
        rw [others] at failed
        cases failed
        exact ih others
      | ok values =>
        rw [others] at failed
        cases failed

theorem ofCriterionMistake {predicates : Predicates} {c : Criterion} {failure : Failure}
    (failed : ofCriterion predicates c = .error failure) : failure.isConfiguration = true := by
  cases c with
  | relates relation expected =>
    cases read : literals expected.toList with
    | ok values => simp only [ofCriterion, read] at failed; cases failed
    | error cause =>
      simp only [ofCriterion, read] at failed
      cases failed
      exact literalsMistake read
  | likes expected => cases expected <;> cases failed; rfl
  | notLikes expected => cases expected <;> cases failed; rfl
  | satisfies name =>
    unfold ofCriterion at failed
    cases known : predicates.get? name with
    | some predicate => simp [known] at failed
    | none =>
      simp only [known] at failed
      cases failed
      rfl

theorem ofComparisonMistake {predicates : Predicates} {c : Comparison} {failure : Failure}
    (failed : ofComparison predicates c = .error failure) : failure.isConfiguration = true := by
  unfold ofComparison at failed
  cases made : ofCriterion predicates c.criterion with
  | ok parts => rw [made] at failed; cases failed
  | error cause =>
    rw [made] at failed
    cases failed
    exact ofCriterionMistake made

end ValueCheck

end PageCheck
