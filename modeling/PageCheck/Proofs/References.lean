import PageCheck.Assertion.Expected
import PageCheck.Proofs.Resolution

/-!
The references of a step, in the order in which they are resolved. What has been resolved has none
left. The steps of a nested scenario keep theirs until they are reached themselves.
-/
namespace PageCheck

def Deferred.references {α : Type} : Deferred α → List Placeholder
  | .reference placeholder => [placeholder]
  | .value _ => []

def Target.references : Target → List Placeholder
  | .element locator => locator.references
  | .html | .url => []

def Expected.references (e : Expected) : List Placeholder :=
  e.toList.flatMap Deferred.references

def Criterion.references : Criterion → List Placeholder
  | .relates _ expected => expected.references
  | .likes expected | .notLikes expected => expected.references
  | .satisfies _ => []

def Presence.references (p : Presence) : List Placeholder := p.target.references

def Comparison.references (c : Comparison) : List Placeholder :=
  c.target.references ++ c.criterion.references

def Demand.references : Demand → List Placeholder
  | .present presence | .absent presence => presence.references
  | .compare comparison => comparison.references

def Assertion.references (a : Assertion) : List Placeholder := a.demand.references

def Condition.references : Condition → List Placeholder
  | .flag value => value.references
  | .assertion a => a.references

def Guard.references (g : Guard) : List Placeholder :=
  g.flatMap fun group => group.flatMap Condition.references

def Frame.references : Frame → List Placeholder
  | .top => []
  | .within locator => locator.references

def Deed.references : Deed → List Placeholder
  | .click target | .clear target _ => target.references
  | .sendKeys target value => target.references ++ value.references
  | .check target values | .select target values | .unselect target values =>
    target.references ++ values.flatMap Deferred.references
  | .alert _ => []
  | .switchTo frame => frame.references

def Action.references (a : Action) : List Placeholder := a.deed.references

def StepBody.references (b : StepBody) : List Placeholder :=
  b.url.toList.flatMap Deferred.references ++ b.link.toList.flatMap Deferred.references ++
  b.execif.toList.flatMap Guard.references ++ b.actions.flatMap Action.references ++
  b.checks.flatMap Assertion.references

def Clears {α : Type} (resolve : Mapping → α → Except Failure α)
    (references : α → List Placeholder) : Prop :=
  ∀ m x y, resolve m x = .ok y → references y = []

namespace Clears

variable {α : Type} {resolve : Mapping → α → Except Failure α} {references : α → List Placeholder}

theorem option (clears : Clears resolve references) :
    Clears (fun m => resolveOption (resolve m)) fun part => part.toList.flatMap references := by
  intro m x y resolved
  cases x with
  | none =>
    cases resolved
    rfl
  | some part =>
    obtain ⟨found, atPart, rfl⟩ := mapOk.mp resolved
    simp only [Option.toList_some, List.flatMap_singleton, clears m part found atPart]

theorem items (clears : Clears resolve references) :
    Clears (fun m => resolveItems (resolve m)) fun list => list.flatMap references := by
  intro m x y resolved
  induction x generalizing y with
  | nil =>
    cases resolved
    rfl
  | cons item rest ih =>
    obtain ⟨first, atFirst, resolved⟩ := bindOk.mp resolved
    obtain ⟨last, atRest, rfl⟩ := mapOk.mp resolved
    have others : last.flatMap references = [] := ih last atRest
    show (first :: last).flatMap references = []
    rw [List.flatMap_cons, clears m item first atFirst, others]
    rfl

end Clears

theorem Deferred.clears {α : Type} [Slot α] :
    Clears (Deferred.resolve (α := α)) Deferred.references := by
  intro m x y resolved
  cases x with
  | value literal =>
    cases resolved
    rfl
  | reference placeholder =>
    obtain ⟨_, _, found⟩ := bindOk.mp resolved
    obtain ⟨_, _, rfl⟩ := mapOk.mp found
    rfl

theorem Target.clears : Clears Target.resolve Target.references := by
  intro m x y resolved
  cases x with
  | element locator =>
    obtain ⟨found, atLocator, rfl⟩ := mapOk.mp resolved
    exact Deferred.clears m locator found atLocator
  | html =>
    cases resolved
    rfl
  | url =>
    cases resolved
    rfl

theorem Expected.clears : Clears Expected.resolve Expected.references := by
  intro m x y resolved
  cases x with
  | one value =>
    obtain ⟨found, atValue, rfl⟩ := mapOk.mp resolved
    simp only [references, toList, List.flatMap_singleton, Deferred.clears m value found atValue]
  | many values =>
    obtain ⟨found, atValues, rfl⟩ := mapOk.mp resolved
    exact Deferred.clears.items m values found atValues

theorem Criterion.clears : Clears Criterion.resolve Criterion.references := by
  intro m x y resolved
  cases x with
  | relates relation expected =>
    obtain ⟨found, atExpected, rfl⟩ := mapOk.mp resolved
    exact Expected.clears m expected found atExpected
  | likes expected =>
    obtain ⟨found, atExpected, rfl⟩ := mapOk.mp resolved
    exact Deferred.clears m expected found atExpected
  | notLikes expected =>
    obtain ⟨found, atExpected, rfl⟩ := mapOk.mp resolved
    exact Deferred.clears m expected found atExpected
  | satisfies predicate =>
    cases resolved
    rfl

theorem Presence.clears : Clears Presence.resolve Presence.references := by
  intro m x y resolved
  obtain ⟨found, atTarget, rfl⟩ := mapOk.mp resolved
  exact Deferred.clears m x.target found atTarget

theorem Comparison.clears : Clears Comparison.resolve Comparison.references := by
  intro m x y resolved
  obtain ⟨target, atTarget, resolved⟩ := bindOk.mp resolved
  obtain ⟨criterion, atCriterion, rfl⟩ := mapOk.mp resolved
  simp only [references, Target.clears m _ target atTarget,
    Criterion.clears m _ criterion atCriterion, List.append_nil]

theorem Demand.clears : Clears Demand.resolve Demand.references := by
  intro m x y resolved
  cases x with
  | present presence =>
    obtain ⟨found, atPresence, rfl⟩ := mapOk.mp resolved
    exact Presence.clears m presence found atPresence
  | absent presence =>
    obtain ⟨found, atPresence, rfl⟩ := mapOk.mp resolved
    exact Presence.clears m presence found atPresence
  | compare comparison =>
    obtain ⟨found, atComparison, rfl⟩ := mapOk.mp resolved
    exact Comparison.clears m comparison found atComparison

theorem Assertion.clears : Clears Assertion.resolve Assertion.references := by
  intro m x y resolved
  obtain ⟨found, atDemand, rfl⟩ := mapOk.mp resolved
  exact Demand.clears m x.demand found atDemand

theorem Condition.clears : Clears Condition.resolve Condition.references := by
  intro m x y resolved
  cases x with
  | flag value =>
    obtain ⟨found, atValue, rfl⟩ := mapOk.mp resolved
    exact Deferred.clears m value found atValue
  | assertion a =>
    obtain ⟨found, atAssertion, rfl⟩ := mapOk.mp resolved
    exact Assertion.clears m a found atAssertion

theorem Guard.clears : Clears Guard.resolve Guard.references := Condition.clears.items.items

theorem Frame.clears : Clears Frame.resolve Frame.references := by
  intro m x y resolved
  cases x with
  | top =>
    cases resolved
    rfl
  | within locator =>
    obtain ⟨found, atLocator, rfl⟩ := mapOk.mp resolved
    exact Deferred.clears m locator found atLocator

theorem Deed.clears : Clears Deed.resolve Deed.references := by
  intro m x y resolved
  have choosing {target : Deferred Locator} {values : List (Deferred String)}
      {build : Deferred Locator → List (Deferred String) → Deed}
      (same : ∀ t v, (build t v).references = t.references ++ v.flatMap Deferred.references)
      (resolved : (do
        let target ← target.resolve m
        return build target (← resolveItems (Deferred.resolve m) values)) = .ok y) :
      y.references = [] := by
    obtain ⟨found, atTarget, resolved⟩ := bindOk.mp resolved
    obtain ⟨others, atValues, rfl⟩ := mapOk.mp resolved
    rw [same, Deferred.clears m target found atTarget]
    exact Deferred.clears.items m values others atValues
  cases x with
  | click target =>
    obtain ⟨found, atTarget, rfl⟩ := mapOk.mp resolved
    exact Deferred.clears m target found atTarget
  | sendKeys target value =>
    obtain ⟨found, atTarget, resolved⟩ := bindOk.mp resolved
    obtain ⟨keys, atValue, rfl⟩ := mapOk.mp resolved
    simp only [references, Deferred.clears m target found atTarget,
      Deferred.clears m value keys atValue, List.append_nil]
  | clear target mode =>
    obtain ⟨found, atTarget, rfl⟩ := mapOk.mp resolved
    exact Deferred.clears m target found atTarget
  | check target values => exact choosing (fun _ _ => rfl) resolved
  | select target values => exact choosing (fun _ _ => rfl) resolved
  | unselect target values => exact choosing (fun _ _ => rfl) resolved
  | alert answer =>
    cases resolved
    rfl
  | switchTo frame =>
    obtain ⟨found, atFrame, rfl⟩ := mapOk.mp resolved
    exact Frame.clears m frame found atFrame

theorem Action.clears : Clears Action.resolve Action.references := by
  intro m x y resolved
  obtain ⟨found, atDeed, rfl⟩ := mapOk.mp resolved
  exact Deed.clears m x.deed found atDeed

theorem StepBody.clears : Clears StepBody.resolve StepBody.references := by
  intro m x y resolved
  obtain ⟨url, atUrl, resolved⟩ := bindOk.mp resolved
  obtain ⟨link, atLink, resolved⟩ := bindOk.mp resolved
  obtain ⟨execif, atGuard, resolved⟩ := bindOk.mp resolved
  obtain ⟨actions, atActions, resolved⟩ := bindOk.mp resolved
  obtain ⟨checks, atChecks, rfl⟩ := mapOk.mp resolved
  simp only [references, Deferred.clears.option m _ url atUrl,
    Deferred.clears.option m _ link atLink, Guard.clears.option m _ execif atGuard,
    Action.clears.items m _ actions atActions, Assertion.clears.items m _ checks atChecks,
    List.append_nil]

end PageCheck
