import PageCheck.Proofs.FailingPart
import PageCheck.Proofs.ListComposition

/-!
Debug mode. A run that tells failures bare and one that puts them into their page context do the
same. Where the first fails, the second tells the same failure once, with the innermost step in
which it arose.
-/
namespace PageCheck

variable {σ E : Type} [Host σ E]

def RunContext.telling (context : RunContext) (debug : Bool) : RunContext :=
  { context with settings := { context.settings with debug } }

theorem Failure.rootOfBare {failure : Failure} (bare : failure.isReported = false) :
    failure.root = failure := by
  cases failure with
  | reported page cause => cases bare
  | _ => rfl

section Debug

variable (settings : CheckSettings) (debug : Bool) (predicates : Predicates)

theorem Assertion.holdsEither (a : Assertion) :
    a.holds (σ := σ) { settings with debug } predicates = a.holds settings predicates := by
  unfold Assertion.holds
  rfl

theorem Assertion.verifyEither (a : Assertion) :
    a.verify (σ := σ) { settings with debug } predicates = a.verify settings predicates := by
  unfold Assertion.verify
  rfl

theorem Guard.conditionEither (c : Condition) :
    Guard.condition (σ := σ) { settings with debug } predicates c =
      Guard.condition settings predicates c := by
  cases c with
  | flag value => rfl
  | assertion a => exact a.holdsEither settings debug predicates

theorem Guard.anyOfEither (group : List Condition) :
    Guard.anyOf (σ := σ) { settings with debug } predicates group =
      Guard.anyOf settings predicates group := by
  induction group with
  | nil => rfl
  | cons first rest ih => rw [Guard.anyOf, Guard.anyOf, conditionEither, ih]

theorem Guard.allOfEither (index : Nat) (g : Guard) :
    Guard.allOf (σ := σ) { settings with debug } predicates index g =
      Guard.allOf settings predicates index g := by
  induction g generalizing index with
  | nil => rfl
  | cons group rest ih => rw [Guard.allOf, Guard.allOf, anyOfEither, ih]

theorem Action.performEither (action : Action) :
    action.perform (σ := σ) { settings with debug } = action.perform settings := by
  obtain ⟨deed, timeout⟩ := action
  unfold Action.perform
  cases deed with
  | clear target mode => cases mode <;> rfl
  | switchTo frame => cases frame <;> rfl
  | _ => rfl

end Debug

namespace Run

theorem ownWorkEither (context : RunContext) (debug : Bool) (body : StepBody) :
    ownWork (σ := σ) (context.telling debug) body = ownWork context body := by
  have guards : guardHolds (σ := σ) (context.telling debug) body = guardHolds context body := by
    unfold guardHolds
    cases body.execif with
    | none => rfl
    | some guard => exact guard.allOfEither context.settings debug context.predicates 0
  have performs : Action.perform (σ := σ) (context.telling debug).settings =
      Action.perform context.settings :=
    funext (Action.performEither context.settings debug)
  have verifies : Assertion.verify (σ := σ) (context.telling debug).settings
      (context.telling debug).predicates =
        Assertion.verify context.settings context.predicates :=
    funext (Assertion.verifyEither context.settings debug context.predicates)
  have navigates : navigate (σ := σ) (context.telling debug).settings body =
      navigate context.settings body := by
    unfold navigate
    rfl
  unfold ownWork verifyAll
  rw [guards, performs, verifies, navigates]

def Bare {α : Type} (x : Check σ α) : Prop := Raises (fun failure _ => failure.isReported = false) x

theorem bareAdmits : Admits fun failure (_ : σ) => failure.isReported = false := by
  constructor <;> intros <;> rfl

theorem resolveBare (m : Mapping) (body : StepBody) :
    Bare (Check.ofExcept (body.resolve m) : Check σ StepBody) := by
  refine .ofExcept fun _ => (body.resolveFails m).mono fun failure unfit => ?_
  cases unfit <;> rfl

theorem ownWorkBare (context : RunContext) (body : StepBody) :
    Bare (ownWork (σ := σ) context body) :=
  ownWorkFailsAt.mono fun _ _ part => part.admitted bareAdmits fun _ _ _ => rfl

mutual

/-- A failure of a step arises in the step itself or in its nested scenario. It comes with the body
of the innermost step, and with the state in which that step failed. -/
inductive ArisesIn (context : RunContext) : Step → σ → StepBody → Failure → σ → Prop where
  | resolving {body nested s failure} (missing : body.resolve context.mapping = .error failure) :
    ArisesIn context ⟨body, nested⟩ s body failure s
  | working {body nested s resolved failure t}
      (found : body.resolve context.mapping = .ok resolved)
      (failed : ownWork context resolved s = .error failure t) :
    ArisesIn context ⟨body, nested⟩ s resolved failure t
  | inside {body list s resolved counted t innermost failure u}
      (found : body.resolve context.mapping = .ok resolved)
      (ran : ownWork context resolved s = .ok (some counted) t)
      (inner : ArisesAmong context list t innermost failure u) :
    ArisesIn context ⟨body, some list⟩ s innermost failure u

inductive ArisesAmong (context : RunContext) :
    Scenario → σ → StepBody → Failure → σ → Prop where
  | here {first rest s innermost failure t}
      (inner : ArisesIn context first s innermost failure t) :
    ArisesAmong context (first :: rest) s innermost failure t
  | later {first rest s counted t innermost failure u}
      (done : step context first s = .ok (.done, counted) t)
      (inner : ArisesAmong context rest t innermost failure u) :
    ArisesAmong context (first :: rest) s innermost failure u

end

inductive Twin {α : Type} (arose : StepBody → Failure → σ → Prop) :
    EStateM.Result Failure σ α → EStateM.Result Failure σ α → Prop where
  | ok (value : α) (t : σ) : Twin arose (.ok value t) (.ok value t)
  | told {innermost failure t} (bare : failure.isReported = false)
      (source : arose innermost failure t) :
    Twin arose (.error failure t) (Report.raise false innermost failure t)

namespace Twin

variable {α β : Type} {arose arose' : StepBody → Failure → σ → Prop} {s : σ} {x y : Check σ α}

theorem bind {f g : α → Check σ β} (first : Twin arose (x s) (y s))
    (outer : ∀ {innermost failure t}, arose innermost failure t → arose' innermost failure t)
    (rest : ∀ value t, x s = .ok value t → Twin arose' (f value t) (g value t)) :
    Twin arose' ((x >>= f) s) ((y >>= g) s) := by
  generalize ran : x s = left at first
  generalize ran' : y s = right at first
  cases first with
  | ok value t =>
    rw [bindOfOk ran, bindOfOk ran']
    exact rest value t ran
  | told bare source =>
    rw [bindOfError ran, bindOfSame ran', Report.raiseBind]
    exact .told bare (outer source)

theorem mono {left right : EStateM.Result Failure σ α} (twin : Twin arose left right)
    (wider : ∀ {innermost failure t}, arose innermost failure t → arose' innermost failure t) :
    Twin arose' left right := by
  cases twin with
  | ok value t => exact .ok value t
  | told bare source => exact .told bare (wider source)

theorem leaf (bare : Bare x) (body : StepBody) (s : σ) :
    Twin (fun innermost failure t => innermost = body ∧ x s = .error failure t) (x s)
      (Report.within false body x s) := by
  cases ran : x s with
  | ok value t =>
    rw [Report.withinOfOk ran]
    exact .ok value t
  | error failure t =>
    rw [Report.withinOfError ran]
    exact .told (bare s failure t ran) ⟨rfl, rfl⟩

theorem around (inner : Twin arose (x s) (y s)) (body : StepBody) :
    Twin arose (x s) (Report.within false body y s) := by
  generalize x s = left at inner ⊢
  generalize ran : y s = right at inner
  cases inner with
  | ok value t =>
    rw [Report.withinOfOk ran]
    exact .ok value t
  | told bare source =>
    rw [Report.withinRaise ran]
    exact .told bare source

end Twin

section Runs

variable [Quiet σ] (context : RunContext)

theorem stepParts (debug : Bool) (body : StepBody) (nested : Option (List Step)) :
    step (σ := σ) (context.telling debug) ⟨body, nested⟩ = do
      let resolved ← Report.within debug body (Check.ofExcept (body.resolve context.mapping))
      match ← Report.within debug resolved (ownWork context resolved) with
      | none => return (.aborted, .oneStep)
      | some counted =>
        let inner ← Report.within debug resolved
          (enter (nestedOf (context.telling debug) nested))
        return (.done, counted + (inner + .oneStep)) := by
  unfold step
  rw [stepStraight, straight]
  congr 1
  funext resolved
  show Report.within debug resolved (work (context.telling debug) resolved _) = _
  rw [work, ownWorkEither, Report.withinBind]
  congr 1
  funext counted
  cases counted with
  | none => rfl
  | some counted =>
    simp only [Report.withinBind, Report.withinPure]

mutual

theorem stepTwin : (first : Step) → (s : σ) →
    Twin (ArisesIn (context.telling true) first s) (step (context.telling true) first s)
      (step (context.telling false) first s)
  | ⟨body, nested⟩, s => by
    rw [stepParts, stepParts]
    simp only [Report.withinDebug]
    refine (Twin.leaf (resolveBare _ body) body s).bind ?unresolved ?resolved
    case unresolved =>
      rintro _ failure t ⟨rfl, failed⟩
      obtain ⟨missing, rfl⟩ := ofExceptError failed
      exact .resolving missing
    case resolved =>
      intro resolved t ran
      obtain ⟨found, rfl⟩ := ofExceptOk ran
      have either := ownWorkEither (σ := σ) context true resolved
      refine (Twin.leaf (ownWorkBare context resolved) resolved s).bind ?failed ?ran
      case failed =>
        rintro _ failure t ⟨rfl, failed⟩
        exact .working found ((congrFun either s).trans failed)
      case ran =>
        intro counted t ran
        cases counted with
        | none => exact .ok _ t
        | some counted =>
          refine (nestedTwin nested t |>.around resolved).bind ?_ fun inner u _ => .ok _ u
          rintro _ failure u ⟨list, rfl, inner⟩
          exact .inside found ((congrFun either s).trans ran) inner

theorem nestedTwin : (nested : Option (List Step)) → (s : σ) →
    Twin (fun innermost failure t => ∃ list, nested = some list ∧
        ArisesAmong (context.telling true) list s innermost failure t)
      (enter (nestedOf (context.telling true) nested) s)
      (enter (nestedOf (context.telling false) nested) s)
  | none, s => by
    rw [enterNothing, enterNothing]
    exact .ok _ s
  | some list, s => by
    rw [enterNested, enterNested]
    exact (scenarioTwin list s).mono fun inner => ⟨list, rfl, inner⟩

theorem scenarioTwin : (list : Scenario) → (s : σ) →
    Twin (ArisesAmong (context.telling true) list s) (scenario (context.telling true) list s)
      (scenario (context.telling false) list s)
  | [], s => by
    rw [scenarioNil, scenarioNil]
    exact .ok _ s
  | first :: rest, s => by
    rw [scenarioCons, scenarioCons]
    refine (stepTwin first s).bind .here fun (phase, counted) t ran => ?_
    cases stepEnd (context.telling true) first s with
    | fails failed => exact nomatch failed.symm.trans ran
    | aborts aborted =>
      cases aborted.symm.trans ran
      exact .ok _ t
    | ends done =>
      cases done.symm.trans ran
      exact (scenarioTwin rest t).bind (.later done) fun _ u _ => .ok _ u

end

end Runs

def pageContext (w : Browser.World) (body : StepBody) : PageContext :=
  { url := w.session.url, step := body.toJson.compact, html := w.session.html }

theorem raiseOnPage {α : Type} (body : StepBody) {failure : Failure}
    (bare : failure.isReported = false) (w : Browser.World) :
    (Report.raise false body failure : Check Browser.World α) w =
      .error (.reported (pageContext w body) failure) w := by
  unfold Report.raise Report.wrap
  rw [if_neg (by simp [bare])]
  rfl

/-- Debug mode only removes the page context, which is put on once, for the innermost step. -/
theorem debugRemovesContext (context : RunContext) (s : Scenario) (w : Browser.World) :
    (∃ tally after,
      scenario (context.telling true) s w = .ok tally after ∧
      scenario (context.telling false) s w = .ok tally after) ∨
    (∃ failure body after,
      scenario (context.telling true) s w = .error failure after ∧
      failure.isReported = false ∧
      ArisesAmong (context.telling true) s w body failure after ∧
      let told := Failure.reported (pageContext after body) failure
      scenario (context.telling false) s w = .error told after ∧
      told.name = failure.name ∧ told.isConfiguration = failure.isConfiguration ∧
      told.root = failure ∧ failure.root = failure) := by
  have twin := scenarioTwin context s w
  generalize ran : scenario (context.telling true) s w = left at twin
  generalize ran' : scenario (context.telling false) s w = right at twin
  cases twin with
  | ok tally after => exact .inl ⟨tally, after, rfl, rfl⟩
  | @told body failure after bare source =>
    have alone : failure.root = failure := Failure.rootOfBare bare
    refine .inr ⟨failure, body, after, rfl, bare, source, ?_, rfl, rfl, ?_, ?_⟩
    · exact raiseOnPage body bare after
    · exact alone
    · exact alone

end Run

end PageCheck
