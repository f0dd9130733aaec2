import PageCheck.Proofs.FailingPart
import PageCheck.Proofs.ListComposition

/-!
References in a run. A step is resolved before anything else is done with it, so whatever its guard,
its navigation, its actions and its checks use is a literal.
-/
namespace PageCheck.Run

variable {σ E : Type} [Host σ E]

theorem resolvedAdmits :
    AdmitsRun σ fun failure => ∀ key, failure.root ≠ .scenario (.unresolved key) where
  host _ _ := nofun
  noSuchElement _ _ _ _ _ := nofun
  elementExists _ _ _ _ _ := nofun
  mismatch _ _ _ := nofun
  script _ _ _ := nofun
  status _ _ _ _ := nofun
  unknownPredicate _ _ _ := nofun
  manyValues _ _ _ := nofun
  unfit unfit key := by cases unfit <;> exact nofun
  reported holds := holds

theorem referencesResolvedBeforeUse (context : RunContext) (list : Scenario) :
    (∀ body resolved, StepBody.resolve context.mapping body = .ok resolved →
      resolved.references = [] ∧
      ∀ failure (t : σ), FailsAt context resolved failure t →
        ∀ key, failure ≠ .scenario (.unresolved key)) ∧
    ∀ (s : σ) failure t, scenario context list s = .error failure t →
      ∀ key, failure.root ≠ .scenario (.unresolved key) := by
  refine ⟨fun body resolved found => ?_, resolvedAdmits.scenario list⟩
  have literal : resolved.references = [] := StepBody.clears _ body resolved found
  refine ⟨literal, fun failure t part key => ?_⟩
  have left : Tolerates (fun failure (_ : σ) => ∀ key, failure.root ≠ .scenario (.unresolved key))
      resolved.references := by
    rw [literal]
    exact nofun
  rintro rfl
  exact part.admitted resolvedAdmits.toAdmits left key rfl

def oneEntry : RunContext where
  settings := { CheckSettings.default with debug := true }
  predicates := []
  mapping := [("page", .text "http://nowhere/")]

theorem nestedPageResolvedBeforeUse :
    StepBody.resolve oneEntry.mapping unknownPage.body =
      .ok (Step.visit (.value "http://nowhere/")).body ∧
    (Step.visit (.value "http://nowhere/")).body.references = [] ∧
    scenario oneEntry [.nesting [unknownPage]] (Browser.World.start []) =
      .error (.host (.command "no page at http://nowhere/")) (.start []) ∧
    ∀ key, (Failure.host (.command "no page at http://nowhere/")).root ≠
      .scenario (.unresolved key) := by
  have found : StepBody.resolve oneEntry.mapping unknownPage.body =
    .ok (Step.visit (.value "http://nowhere/")).body := rfl
  have failed : scenario oneEntry [.nesting [unknownPage]] (Browser.World.start []) =
    .error (.host (.command "no page at http://nowhere/")) (.start []) := rfl
  obtain ⟨bodies, failures⟩ :=
    referencesResolvedBeforeUse (σ := Browser.World) oneEntry [.nesting [unknownPage]]
  exact ⟨found, (bodies _ _ found).1, failed, failures _ _ _ failed⟩

end PageCheck.Run
