import PageCheck.Browser.World
import PageCheck.Proofs.Resolution
import PageCheck.Run

/-!
Resolving a scenario before the run does what the run does by itself, step by step. A step looks at
its own resolved body only, so both runs make the same calls on any browser and tell their failures
with the same step.
-/
namespace PageCheck.Run

variable {σ E : Type} [Host σ E]

def withoutEntries (context : RunContext) : RunContext := { context with mapping := [] }

theorem advanceWithoutEntries (context : RunContext) (body : StepBody) (nested : Option (Nested σ))
    (phase : Phase) :
    advance context body nested phase = advance (withoutEntries context) body nested phase := by
  cases phase <;> rfl

theorem phasesWithoutEntries (context : RunContext) (body : StepBody) (nested : Option (Nested σ))
    (limit : Nat) (phase : Phase) :
    phases context body nested limit phase =
      phases (withoutEntries context) body nested limit phase := by
  induction limit generalizing phase with
  | zero => rfl
  | succ limit ih =>
    unfold phases
    rw [advanceWithoutEntries]
    simp only [ih]
    rfl

theorem stepWithResolved {context : RunContext} {body resolved : StepBody}
    (found : body.resolve context.mapping = .ok resolved) (nested : Option (Nested σ)) :
    stepWith context body nested =
      phases context resolved nested (remaining .pending) .pending := by
  unfold stepWith
  rw [found]
  rfl

theorem stepWithEager {context : RunContext} {body resolved : StepBody}
    (found : body.resolve context.mapping = .ok resolved) (nested : Option (Nested σ)) :
    stepWith context body nested = stepWith (withoutEntries context) resolved nested := by
  rw [stepWithResolved found, phasesWithoutEntries]
  exact (stepWithResolved (StepBody.settles _ _ _ found _) nested).symm

theorem resolvedLength {m : Mapping} {list resolved : List Step}
    (found : Step.resolveList m list = .ok resolved) : resolved.length = list.length := by
  induction list generalizing resolved with
  | nil =>
    rw [Step.resolveList] at found
    cases found
    rfl
  | cons first rest ih =>
    rw [Step.resolveList] at found
    obtain ⟨_, _, others⟩ := bindOk.mp found
    obtain ⟨tail, done, rfl⟩ := mapOk.mp others
    exact congrArg (· + 1) (ih done)

mutual

theorem stepEager (context : RunContext) : {s resolved : Step} →
    s.resolve context.mapping = .ok resolved →
      step (σ := σ) context s = step (withoutEntries context) resolved
  | ⟨body, nested⟩, resolved, found => by
    rw [Step.resolve] at found
    obtain ⟨body', atBody, rest⟩ := bindOk.mp found
    obtain ⟨nested', atNested, rfl⟩ := mapOk.mp rest
    unfold step
    rw [stepWithEager atBody, nestedEager context atNested]

theorem nestedEager (context : RunContext) : {nested resolved : Option (List Step)} →
    Step.resolveNested context.mapping nested = .ok resolved →
      nestedOf (σ := σ) context nested = nestedOf (withoutEntries context) resolved
  | none, resolved, found => by
    rw [Step.resolveNested] at found
    cases found
    unfold nestedOf
    rfl
  | some list, resolved, found => by
    rw [Step.resolveNested] at found
    obtain ⟨list', atList, rfl⟩ := mapOk.mp found
    unfold nestedOf
    rw [stepsEager context 0 atList, resolvedLength atList]

theorem stepsEager (context : RunContext) : (index : Nat) → {list resolved : List Step} →
    Step.resolveList context.mapping list = .ok resolved →
      steps (σ := σ) context index list = steps (withoutEntries context) index resolved
  | index, [], resolved, found => by
    rw [Step.resolveList] at found
    cases found
    unfold steps
    rfl
  | index, first :: rest, resolved, found => by
    rw [Step.resolveList] at found
    obtain ⟨first', atFirst, others⟩ := bindOk.mp found
    obtain ⟨rest', atRest, rfl⟩ := mapOk.mp others
    unfold steps
    rw [stepEager context atFirst, stepsEager context (index + 1) atRest, resolvedLength atRest]

end

theorem scenarioEager {context : RunContext} {s resolved : Scenario}
    (found : Scenario.resolve context.mapping s = .ok resolved) :
    scenario (σ := σ) context s = scenario { context with mapping := [] } resolved := by
  unfold scenario
  rw [stepsEager context 0 found]
  rfl

def loadThenClick (url : Deferred String) (button : Deferred Locator) : Scenario :=
  [{ body := { StepBody.empty with url := some url },
     nested := some [.acting [{ deed := .click button, timeout := none }]] }]

def referring : Scenario :=
  loadThenClick
    (.reference { key := "base", append := [.literal "/", .reference "page" [.literal ".html"]] })
    (.reference { key := "button", append := [] })

def inEntries : RunContext :=
  { settings := .default
    predicates := []
    mapping := [("base", .text "http://a"), ("page", .text "first"),
      ("button", .locator { strategy := .id, selector := "more" })] }

def spelledOut : Scenario :=
  loadThenClick (.value "http://a/first.html") (.value { strategy := .id, selector := "more" })

theorem scenarioEagerNested :
    Scenario.resolve inEntries.mapping referring = .ok spelledOut ∧
    scenario (σ := Browser.World) inEntries referring =
      scenario { inEntries with mapping := [] } spelledOut :=
  ⟨rfl, scenarioEager rfl⟩

end PageCheck.Run
