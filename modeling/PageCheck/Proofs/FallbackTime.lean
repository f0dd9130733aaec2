import PageCheck.Proofs.RunAccount

/-!
The configured time to wait is what an action or an assertion waits that has no time of its own. So
a scenario runs in the same way when that time is written wherever none is, and where every time is
written and no link is followed, it does not matter what is configured (`timeOnlyFallback`).
-/
namespace PageCheck

def Action.timed (time : Nat) (a : Action) : Action :=
  { a with timeout := some (a.timeout.getD time) }

def Assertion.timed (time : Nat) (a : Assertion) : Assertion :=
  { a with timeout := some (a.timeout.getD time) }

def Condition.timed (time : Nat) : Condition → Condition
  | .flag value => .flag value
  | .assertion a => .assertion (a.timed time)

def Guard.timed (time : Nat) (g : Guard) : Guard := g.map (List.map (Condition.timed time))

def StepBody.timed (time : Nat) (b : StepBody) : StepBody where
  url := b.url
  link := b.link
  execif := b.execif.map (Guard.timed time)
  actions := b.actions.map (Action.timed time)
  checks := b.checks.map (Assertion.timed time)

namespace Step

mutual

def timed (time : Nat) : Step → Step
  | ⟨body, nested⟩ => ⟨body.timed time, timedNested time nested⟩

def timedNested (time : Nat) : Option (List Step) → Option (List Step)
  | none => none
  | some list => some (timedList time list)

def timedList (time : Nat) : List Step → List Step
  | [] => []
  | first :: rest => first.timed time :: timedList time rest

end

end Step

theorem resolveItemsMap {α : Type} {resolve : α → Except Failure α} {f : α → α}
    (same : ∀ x, resolve (f x) = (resolve x).map f) (list : List α) :
    resolveItems resolve (list.map f) = (resolveItems resolve list).map (List.map f) := by
  induction list with
  | nil => rfl
  | cons item rest ih =>
    rw [List.map_cons, resolveItems, resolveItems, same, ih]
    cases resolve item with
    | error e => rfl
    | ok first => cases resolveItems resolve rest <;> rfl

theorem resolveOptionMap {α : Type} {resolve : α → Except Failure α} {f : α → α}
    (same : ∀ x, resolve (f x) = (resolve x).map f) (x : Option α) :
    resolveOption resolve (x.map f) = (resolveOption resolve x).map (Option.map f) := by
  cases x with
  | none => rfl
  | some part =>
    rw [Option.map_some, resolveOption, resolveOption, same]
    cases resolve part <;> rfl

section Resolution

variable (time : Nat) (m : Mapping)

theorem Action.resolveTimed (a : Action) :
    (a.timed time).resolve m = (a.resolve m).map (Action.timed time) := by
  unfold Action.resolve Action.timed
  cases a.deed.resolve m <;> rfl

theorem Assertion.resolveTimed (a : Assertion) :
    (a.timed time).resolve m = (a.resolve m).map (Assertion.timed time) := by
  unfold Assertion.resolve Assertion.timed
  cases a.demand.resolve m <;> rfl

theorem Condition.resolveTimed (c : Condition) :
    (c.timed time).resolve m = (c.resolve m).map (Condition.timed time) := by
  cases c with
  | flag value =>
    rw [Condition.timed, Condition.resolve]
    cases value.resolve m <;> rfl
  | assertion a =>
    rw [Condition.timed, Condition.resolve, Condition.resolve, a.resolveTimed]
    cases a.resolve m <;> rfl

theorem Guard.resolveTimed (g : Guard) :
    (g.timed time).resolve m = (g.resolve m).map (Guard.timed time) :=
  resolveItemsMap (resolveItemsMap (Condition.resolveTimed time m)) g

theorem StepBody.resolveTimed (b : StepBody) :
    (b.timed time).resolve m = (b.resolve m).map (StepBody.timed time) := by
  unfold StepBody.resolve StepBody.timed
  rw [resolveOptionMap (Guard.resolveTimed time m), resolveItemsMap (Action.resolveTimed time m),
    resolveItemsMap (Assertion.resolveTimed time m)]
  cases resolveOption (Deferred.resolve m) b.url with
  | error e => rfl
  | ok url =>
    cases resolveOption (Deferred.resolve m) b.link with
    | error e => rfl
    | ok link =>
      cases resolveOption (Guard.resolve m) b.execif with
      | error e => rfl
      | ok execif =>
        cases resolveItems (Action.resolve m) b.actions with
        | error e => rfl
        | ok actions => cases resolveItems (Assertion.resolve m) b.checks <;> rfl

end Resolution

def CheckSettings.waiting (s : CheckSettings) (time : Nat) : CheckSettings :=
  { s with timeout := time }

def RunContext.waiting (context : RunContext) (time : Nat) : RunContext :=
  { context with settings := context.settings.waiting time }

section Parts

variable {σ E : Type} [Host σ E] (s : CheckSettings) (predicates : Predicates) (time : Nat)

theorem carryOutWaiting (directive : String) (timeout : Nat) (deed : Deed) :
    Action.carryOut (σ := σ) (s.waiting time) directive timeout deed =
      Action.carryOut s directive timeout deed := by
  cases deed with
  | clear target mode => cases mode <;> rfl
  | switchTo frame => cases frame <;> rfl
  | _ => rfl

theorem performTimed (a : Action) :
    Action.perform (σ := σ) (s.waiting time) (a.timed s.timeout) = Action.perform s a :=
  congrArg (Check.emit (.performing a.directive) >>= fun _ => ·)
    (carryOutWaiting s time a.directive (a.timeout.getD s.timeout) a.deed)

theorem verifyTimed (a : Assertion) :
    (a.timed s.timeout).verify (σ := σ) (s.waiting time) predicates = a.verify s predicates :=
  rfl

theorem conditionTimed (c : Condition) :
    Guard.condition (σ := σ) (s.waiting time) predicates (c.timed s.timeout) =
      Guard.condition s predicates c := by
  cases c <;> rfl

theorem anyOfTimed (group : List Condition) :
    Guard.anyOf (σ := σ) (s.waiting time) predicates (group.map (Condition.timed s.timeout)) =
      Guard.anyOf s predicates group := by
  induction group with
  | nil => rfl
  | cons first rest ih =>
    rw [List.map_cons, Guard.anyOf, Guard.anyOf, conditionTimed, ih]

theorem allOfTimed (index : Nat) (g : Guard) :
    Guard.allOf (σ := σ) (s.waiting time) predicates index (g.timed s.timeout) =
      Guard.allOf s predicates index g := by
  induction g generalizing index with
  | nil => rfl
  | cons group rest ih =>
    rw [Guard.timed, List.map_cons, Guard.allOf, Guard.allOf, anyOfTimed, ← Guard.timed, ih]

theorem forEachMap {α : Type} {act act' : α → Check σ Unit} {f : α → α}
    (same : ∀ x, act (f x) = act' x) (list : List α) :
    Run.forEach act (list.map f) = Run.forEach act' list := by
  induction list with
  | nil => rfl
  | cons item rest ih => rw [List.map_cons, Run.forEach, Run.forEach, same, ih]

theorem navigateTimed {b : StepBody} (free : b.link = none ∨ time = s.timeout) :
    Run.navigate (σ := σ) (s.waiting time) (b.timed s.timeout) = Run.navigate s b := by
  rcases free with unlinked | rfl
  · unfold Run.navigate
    show (if b.navigates then _ else _ : Check σ Bool) = _
    rw [show (b.timed s.timeout).link = none from unlinked, unlinked]
    rfl
  · rfl

end Parts

structure StepBody.Indifferent (s : CheckSettings) (time : Nat) (b : StepBody) : Prop where
  told : s.debug = true ∨ b.timed s.timeout = b
  free : b.link = none ∨ time = s.timeout

theorem StepBody.Indifferent.resolved {s : CheckSettings} {time : Nat} {m : Mapping}
    {b resolved : StepBody} (own : b.Indifferent s time) (found : b.resolve m = .ok resolved) :
    resolved.Indifferent s time where
  told := own.told.imp_right fun same => by
    have again := b.resolveTimed s.timeout m
    rw [same, found] at again
    exact (Except.ok.inj again).symm
  free := own.free.imp_left fun unlinked => by
    obtain ⟨url, -, found⟩ := bindOk.mp found
    obtain ⟨link, atLink, found⟩ := bindOk.mp found
    obtain ⟨execif, -, found⟩ := bindOk.mp found
    obtain ⟨actions, -, found⟩ := bindOk.mp found
    obtain ⟨checks, -, rfl⟩ := mapOk.mp found
    rw [unlinked] at atLink
    cases atLink
    rfl

namespace Run

variable {σ E : Type} [Host σ E] (context : RunContext) (time : Nat)

theorem withinTimed {α : Type} {b : StepBody} (own : b.Indifferent context.settings time)
    (part : Check σ α) :
    Report.within (context.waiting time).settings.debug (b.timed context.settings.timeout) part =
      Report.within context.settings.debug b part := by
  have debug : (context.waiting time).settings.debug = context.settings.debug := rfl
  rw [debug]
  rcases own.told with on | same
  · rw [on, Report.withinDebug, Report.withinDebug]
  · rw [same]

theorem advanceTimed {b : StepBody} (own : b.Indifferent context.settings time)
    (nested : Option (Nested σ)) (phase : Phase) :
    advance (context.waiting time) (b.timed context.settings.timeout) nested phase =
      advance context b nested phase := by
  obtain ⟨settings, predicates, mapping⟩ := context
  cases phase with
  | pending => cases guarded : b.execif <;> simp only [advance, StepBody.timed, guarded] <;> rfl
  | guardCheck =>
    obtain ⟨url, link, execif, actions, checks⟩ := b
    cases execif with
    | none => rfl
    | some guard => exact congrArg (· >>= _) (allOfTimed settings predicates time 0 guard)
  | navigate => exact congrArg (· >>= _) (navigateTimed settings time own.free)
  | actions =>
    exact congrArg (· >>= _) (forEachMap (performTimed settings time) b.actions)
  | checks =>
    exact congrArg (· >>= _) (forEachMap (verifyTimed settings predicates time) b.checks)
  | nested => rfl
  | done => rfl
  | aborted => rfl

theorem phasesTimed {b : StepBody} (own : b.Indifferent context.settings time)
    (nested : Option (Nested σ)) (limit : Nat) (phase : Phase) :
    phases (context.waiting time) (b.timed context.settings.timeout) nested limit phase =
      phases context b nested limit phase := by
  induction limit generalizing phase with
  | zero => rfl
  | succ limit ih =>
    unfold phases
    rw [withinTimed context time own, advanceTimed context time own]
    simp only [ih]

theorem stepWithTimed {b : StepBody} (own : b.Indifferent context.settings time)
    (nested : Option (Nested σ)) :
    stepWith (context.waiting time) (b.timed context.settings.timeout) nested =
      stepWith context b nested := by
  have mapping : (context.waiting time).mapping = context.mapping := rfl
  unfold stepWith
  rw [withinTimed context time own, mapping, b.resolveTimed]
  cases found : b.resolve context.mapping with
  | error failure =>
    funext s
    obtain ⟨told, t, raised, -⟩ :=
      Report.raiseFails (α := StepBody) context.settings.debug b failure s
    have fails : Report.within context.settings.debug b (Check.ofExcept (.error failure)) s =
        .error told t :=
      (Report.withinOfError rfl).trans raised
    exact (bindOfError fails _).trans (bindOfError fails _).symm
  | ok resolved =>
    exact phasesTimed context time (own.resolved found) nested _ _

def Indifferent (s : CheckSettings) (time : Nat) (bodies : List StepBody) : Prop :=
  ∀ body ∈ bodies, body.Indifferent s time

theorem timedLength (time : Nat) (list : List Step) :
    (Step.timedList time list).length = list.length := by
  induction list with
  | nil => rfl
  | cons first rest ih =>
    rw [Step.timedList, List.length_cons, List.length_cons, ih]

mutual

theorem stepTimed : (s : Step) → Indifferent context.settings time s.bodies →
    step (σ := σ) (context.waiting time) (s.timed context.settings.timeout) = step context s
  | ⟨body, nested⟩, own => by
    rw [Step.bodies, Indifferent, List.forall_mem_cons] at own
    rw [Step.timed, step, step, stepWithTimed context time own.1, nestedTimed nested own.2]

theorem nestedTimed : (nested : Option (List Step)) →
    Indifferent context.settings time (Step.bodiesNested nested) →
    nestedOf (σ := σ) (context.waiting time) (Step.timedNested context.settings.timeout nested) =
      nestedOf context nested
  | none, _ => by
    rw [Step.timedNested, nestedOf, nestedOf]
  | some list, own => by
    rw [Step.bodiesNested] at own
    rw [Step.timedNested, nestedOf, nestedOf, stepsTimed 0 list own, timedLength]

theorem stepsTimed : (index : Nat) → (list : List Step) →
    Indifferent context.settings time (Step.bodiesOf list) →
    steps (σ := σ) (context.waiting time) index (Step.timedList context.settings.timeout list) =
      steps context index list
  | _, [], _ => by
    rw [Step.timedList, steps, steps]
  | index, first :: rest, own => by
    rw [Step.bodiesOf, Indifferent, List.forall_mem_append] at own
    rw [Step.timedList, steps, steps, stepTimed first own.1, stepsTimed (index + 1) rest own.2,
      timedLength]

end

end Run

structure StepBody.WritesTimes (b : StepBody) : Prop where
  actions : ∀ a ∈ b.actions, a.timeout ≠ none
  checks : ∀ a ∈ b.checks, a.timeout ≠ none
  execif : ∀ guard, b.execif = some guard → ∀ group ∈ guard, ∀ a,
    Condition.assertion a ∈ group → a.timeout ≠ none

theorem writtenTime {time : Nat} {own : Option Nat} (written : own ≠ none) :
    some (own.getD time) = own := by
  obtain ⟨value, rfl⟩ := Option.ne_none_iff_exists'.mp written
  rfl

theorem mapSame {α : Type} {f : α → α} {list : List α} (same : ∀ x ∈ list, f x = x) :
    list.map f = list :=
  (List.map_congr_left same).trans (List.map_id list)

theorem StepBody.WritesTimes.timed {b : StepBody} (writes : b.WritesTimes) (time : Nat) :
    b.timed time = b := by
  obtain ⟨url, link, execif, actions, checks⟩ := b
  have acts : actions.map (Action.timed time) = actions := mapSame fun a member => by
    rw [Action.timed, writtenTime (writes.actions a member)]
  have asserts : checks.map (Assertion.timed time) = checks := mapSame fun a member => by
    rw [Assertion.timed, writtenTime (writes.checks a member)]
  have guards : execif.map (Guard.timed time) = execif := by
    cases execif with
    | none => rfl
    | some guard =>
      refine congrArg some (mapSame fun group inside => mapSame fun c member => ?_)
      cases c with
      | flag value => rfl
      | assertion a =>
        rw [Condition.timed, Assertion.timed,
          writtenTime (writes.execif guard rfl group inside a member)]
  rw [StepBody.timed, acts, asserts, guards]

namespace Step

variable {time : Nat}

mutual

theorem timedSame : (s : Step) → (∀ body ∈ s.bodies, body.timed time = body) → s.timed time = s
  | ⟨body, nested⟩, same => by
    rw [bodies, List.forall_mem_cons] at same
    rw [timed, same.1, timedNestedSame nested same.2]

theorem timedNestedSame : (nested : Option (List Step)) →
    (∀ body ∈ bodiesNested nested, body.timed time = body) → timedNested time nested = nested
  | none, _ => by
    rw [timedNested]
  | some list, same => by
    rw [bodiesNested] at same
    rw [timedNested, timedListSame list same]

theorem timedListSame : (list : List Step) →
    (∀ body ∈ bodiesOf list, body.timed time = body) → timedList time list = list
  | [], _ => by
    rw [timedList]
  | first :: rest, same => by
    rw [bodiesOf, List.forall_mem_append] at same
    rw [timedList, timedSame first same.1, timedListSame rest same.2]

end

end Step

namespace Run

/-- In debug mode a scenario runs as it does with the configured time written wherever none is. And
where every time is written and no link is followed, it runs in the same way whatever is
configured. -/
theorem timeOnlyFallback {σ E : Type} [Host σ E] (context : RunContext) (list : Scenario) :
    (context.settings.debug = true →
      scenario (σ := σ) context (Step.timedList context.settings.timeout list) =
        scenario context list) ∧
    ((∀ body ∈ Step.bodiesOf list, body.WritesTimes ∧ body.link = none) →
      ∀ time, scenario (σ := σ) (context.waiting time) list = scenario context list) := by
  constructor
  · intro debug
    have indifferent : Indifferent context.settings context.settings.timeout
        (Step.bodiesOf list) := fun body _ => ⟨.inl debug, .inr rfl⟩
    unfold scenario
    rw [← stepsTimed context _ 0 list indifferent]
    rfl
  · intro written time
    have same : ∀ body ∈ Step.bodiesOf list, body.timed context.settings.timeout = body :=
      fun body member => (written body member).1.timed _
    have indifferent : Indifferent context.settings time (Step.bodiesOf list) :=
      fun body member => ⟨.inr (same body member), .inl (written body member).2⟩
    have ran := stepsTimed (σ := σ) context time 0 list indifferent
    rw [Step.timedListSame list same] at ran
    unfold scenario
    rw [ran]

def impatient : RunContext :=
  { settings := { CheckSettings.default with timeout := 20, debug := true }, predicates := []
    mapping := [] }

def pressing : Scenario :=
  [.nesting [.acting [{ deed := .click (.value greeting), timeout := none }]]]

theorem timeOnlyFallbackOnGreetingPage :
    impatient.settings.debug = true ∧
    scenario impatient (Step.timedList 20 pressing) (greetingPage.pass 60) =
      .error (.noSuchElement "click" greeting.display 20) ((greetingPage.pass 60).pass 20) ∧
    (∀ body ∈ Step.bodiesOf [early], body.WritesTimes ∧ body.link = none) ∧
    (scenario (impatient.waiting 50) [early]).run' greetingPage =
      some { steps := 1, skipped := 0, navigations := 0 } := by
  have debug : impatient.settings.debug = true := rfl
  have plain : scenario impatient pressing (greetingPage.pass 60) =
    .error (.noSuchElement "click" greeting.display 20) ((greetingPage.pass 60).pass 20) := rfl
  have written : ∀ body ∈ Step.bodiesOf [early], body.WritesTimes ∧ body.link = none := by
    have bodies : Step.bodiesOf [early] =
        [early.body, (Step.checking [greets (.value greeting)]).body] := by
      decide
    rw [bodies, List.forall_mem_cons, List.forall_mem_singleton]
    constructor
    · refine ⟨⟨List.forall_mem_nil _, List.forall_mem_nil _, ?_⟩, rfl⟩
      intro guard guarded group member a inside
      cases guarded
      obtain rfl := List.mem_singleton.mp member
      cases List.mem_singleton.mp inside
      exact Option.some_ne_none 20
    · refine ⟨⟨List.forall_mem_nil _, List.forall_mem_singleton.mpr ?_, nofun⟩, rfl⟩
      exact Option.some_ne_none 40
  have skipped : (scenario impatient [early]).run' greetingPage =
    some { steps := 1, skipped := 0, navigations := 0 } := by decide +kernel
  refine ⟨debug, ?_, written, ?_⟩
  · exact (congrFun ((timeOnlyFallback impatient pressing).1 debug) _).trans plain
  · rw [(timeOnlyFallback impatient [early]).2 written 50]
    exact skipped

end Run

end PageCheck
