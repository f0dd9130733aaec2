import PageCheck.Proofs.FalseGuard
import PageCheck.Proofs.Resolution

/-!
What a run counts. A run that does not fail comes to steps and enters lists of steps, and its counts
are read off from these: steps by the steps it came to, skipped ones by the lists it entered, and
navigations by the steps that were not aborted and name an address or a link.
-/
namespace PageCheck

namespace Step

mutual

def bodies : Step → List StepBody
  | ⟨body, nested⟩ => body :: bodiesNested nested

def bodiesNested : Option (List Step) → List StepBody
  | none => []
  | some list => bodiesOf list

def bodiesOf : List Step → List StepBody
  | [] => []
  | first :: rest => first.bodies ++ bodiesOf rest

end

end Step

theorem optionResolved {α : Type} {resolve : α → Except Failure α} {x y : Option α}
    (resolved : resolveOption resolve x = .ok y) : y.isSome = x.isSome := by
  cases x with
  | none =>
    cases resolved
    rfl
  | some value =>
    obtain ⟨_, _, rfl⟩ := mapOk.mp resolved
    rfl

namespace StepBody

variable {m : Mapping} {body resolved : StepBody}

theorem navigatesResolved (found : body.resolve m = .ok resolved) :
    resolved.navigates = body.navigates := by
  obtain ⟨url, atUrl, found⟩ := bindOk.mp found
  obtain ⟨link, atLink, found⟩ := bindOk.mp found
  obtain ⟨execif, -, found⟩ := bindOk.mp found
  obtain ⟨actions, -, found⟩ := bindOk.mp found
  obtain ⟨checks, -, rfl⟩ := mapOk.mp found
  simp only [navigates, optionResolved atUrl, optionResolved atLink]

theorem guardedResolved (found : body.resolve m = .ok resolved) :
    resolved.execif.isSome = body.execif.isSome := by
  obtain ⟨url, -, found⟩ := bindOk.mp found
  obtain ⟨link, -, found⟩ := bindOk.mp found
  obtain ⟨execif, atGuard, found⟩ := bindOk.mp found
  obtain ⟨actions, -, found⟩ := bindOk.mp found
  obtain ⟨checks, -, rfl⟩ := mapOk.mp found
  exact optionResolved atGuard

theorem unguardedResolved (found : body.resolve m = .ok resolved) (unguarded : body.execif = none) :
    resolved.execif = none := by
  simpa [unguarded] using guardedResolved found

end StepBody

namespace Run

variable {σ E : Type} [Host σ E] {context : RunContext}

structure Execution where
  body : StepBody
  aborted : Bool
  deriving DecidableEq, Repr

def Execution.navigates (e : Execution) : Bool := !e.aborted && e.body.navigates

mutual

inductive Completes (context : RunContext) :
    Step → σ → List Execution → List Scenario → σ → Prop where
  | plain {body resolved counted s t} (found : body.resolve context.mapping = .ok resolved)
      (ran : ownPhases context resolved s = .ok (some counted) t) :
      Completes context ⟨body, none⟩ s [⟨body, false⟩] [] (Clock.emit (.transition .done) t)
  | nesting {body resolved counted list s t u executed entered}
      (found : body.resolve context.mapping = .ok resolved)
      (ran : ownPhases context resolved s = .ok (some counted) t)
      (inner : Runs context 0 list (Clock.emit (.entering list.length) t) executed entered u) :
      Completes context ⟨body, some list⟩ s (⟨body, false⟩ :: executed) (list :: entered)
        (Clock.emit (.transition .done) u)

inductive Runs (context : RunContext) :
    (index : Nat) → List Step → σ → List Execution → List Scenario → σ → Prop where
  | finished {index s} : Runs context index [] s [] [] s
  | cut {index first rest s t}
      (guard : GuardFails context first (Clock.emit (.transition .guardCheck) s) t) :
      Runs context index (first :: rest) s [⟨first.body, true⟩] []
        (Clock.emit (.guardFalse index rest.length) (Clock.emit (.transition .aborted) t))
  | onward {index first rest s t u executed entered executed' entered'}
      (done : Completes context first s executed entered t)
      (others : Runs context (index + 1) rest t executed' entered' u) :
      Runs context index (first :: rest) s (executed ++ executed') (entered ++ entered') u

end

structure Accounts (tally : Tally) (length : Nat) (executed : List Execution)
    (entered : List Scenario) : Prop where
  steps : tally.steps = executed.length
  reached : tally.steps + tally.skipped = length + (entered.map List.length).sum
  navigations : tally.navigations = executed.countP Execution.navigates

namespace Accounts

variable {tally other : Tally} {length length' : Nat} {executed executed' : List Execution}
  {entered entered' : List Scenario}

theorem nothing : Accounts .none 0 [] [] := ⟨rfl, rfl, rfl⟩

theorem cutShort (body : StepBody) (left : Nat) :
    Accounts (.oneStep + { Tally.none with skipped := left }) (left + 1) [⟨body, true⟩] [] where
  steps := rfl
  reached := by
    show 1 + 0 + (0 + left) = left + 1 + 0
    omega
  navigations := rfl

theorem append (first : Accounts tally length executed entered)
    (next : Accounts other length' executed' entered') :
    Accounts (tally + other) (length + length') (executed ++ executed') (entered ++ entered') where
  steps := by
    rw [List.length_append, ← first.steps, ← next.steps]
    rfl
  reached := by
    have before := first.reached
    have after := next.reached
    show tally.steps + other.steps + (tally.skipped + other.skipped) = _
    rw [List.map_append, List.sum_append]
    omega
  navigations := by
    rw [List.countP_append, ← first.navigations, ← next.navigations]
    rfl

theorem unique (first : Accounts tally length executed entered)
    (second : Accounts other length executed entered) : tally = other := by
  have same : tally.steps = other.steps := first.steps.trans second.steps.symm
  have reached := first.reached.trans second.reached.symm
  exact Tally.eqOf same (by omega) (first.navigations.trans second.navigations.symm)

theorem navigationsAtMost (counts : Accounts tally length executed entered) :
    tally.navigations ≤ tally.steps := by
  rw [counts.navigations, counts.steps]
  exact List.countP_le_length

end Accounts

section Parts

variable {s t : σ} {body resolved : StepBody}

theorem navigateTells (settings : CheckSettings) (body : StepBody) :
    Ensures (fun _ => True) (navigate settings body : Check σ Bool)
      fun loaded _ => True ∧ loaded = body.navigates := by
  have ignoring {α : Type} {x : Check σ α} : Ensures (fun _ => True) x fun _ _ => True :=
    fun _ _ _ _ _ => trivial
  unfold navigate
  refine .ite (fun navigates => ?_) fun stays => .pure fun _ _ => ?_
  · cases body.url <;> cases body.link <;>
      (repeat refine ignoring.bind fun _ => ?_) <;>
      exact .pure fun _ _ => ⟨trivial, navigates.symm⟩
  · exact ⟨trivial, (Bool.eq_false_iff.mpr stays).symm⟩

theorem ownPhasesCount (context : RunContext) (body : StepBody) :
    Ensures (fun _ => True) (ownPhases context body : Check σ (Option Tally)) fun counted _ =>
      ∀ tally ∈ counted,
        tally = { Tally.none with navigations := if body.navigates then 1 else 0 } := by
  have ignoring {α : Type} {x : Check σ α} : Ensures (fun _ => True) x fun _ _ => True :=
    fun _ _ _ _ _ => trivial
  unfold ownPhases
  refine ignoring.bind fun _ => ignoring.bind fun _ => .ite (fun _ => ?_) fun _ => ?_
  · refine ignoring.bind fun _ => ?_
    unfold admittedPhases noting
    simp only [map_eq_pure_bind, bind_assoc, pure_bind]
    refine (navigateTells context.settings body).bind fun loaded => .given fun tells => ?_
    subst tells
    refine ignoring.bind fun _ => ignoring.bind fun _ => ignoring.bind fun _ => ?_
    refine ignoring.bind fun _ => ignoring.bind fun _ => .pure fun _ _ tally counted => ?_
    exact (Option.mem_some_iff.mp counted).symm
  · exact ignoring.bind fun _ => .pure fun _ _ => nofun

theorem stepWorks {nested : Option (List Step)} {result : Phase × Tally} :
    step context ⟨body, nested⟩ s = .ok result t ↔
      ∃ resolved, body.resolve context.mapping = .ok resolved ∧
        workPhases context resolved (nestedOf context nested) s = .ok result t := by
  unfold step
  rw [stepNoted, bindEnds]
  cases found : body.resolve context.mapping with
  | error failure =>
    refine iff_of_false ?_ (by simp)
    rintro ⟨resolved, u, ran, -⟩
    cases Report.withinEnds.mp ran
  | ok resolved =>
    constructor
    · rintro ⟨_, _, ran, ended⟩
      cases Report.withinEnds.mp ran
      exact ⟨resolved, rfl, Report.withinEnds.mp ended⟩
    · rintro ⟨_, ⟨⟩, ended⟩
      exact ⟨resolved, s, rfl, Report.withinEnds.mpr ended⟩

theorem stepDone {nested : Option (List Step)} {phase : Phase} {counted : Tally} :
    step context ⟨body, nested⟩ s = .ok (phase, counted) t ∧ phase ≠ .aborted ↔
      ∃ resolved own u inner v, body.resolve context.mapping = .ok resolved ∧
        ownPhases context resolved s = .ok (some own) u ∧
        enterNoted (nestedOf context nested) u = .ok inner v ∧
        phase = .done ∧ counted = own + (inner + .oneStep) ∧
        t = Clock.emit (.transition .done) v := by
  rw [stepWorks]
  constructor
  · rintro ⟨⟨resolved, found, works⟩, goesOn⟩
    obtain ⟨own, u, own', ended⟩ := bindEnds.mp works
    cases own with
    | none =>
      cases ended
      contradiction
    | some own =>
      obtain ⟨inner, _, noted, ⟨⟩⟩ := bindEnds.mp ended
      obtain ⟨v, entered, rfl⟩ := notingEnds.mp noted
      exact ⟨resolved, own, u, inner, v, found, own', entered, rfl, rfl, rfl⟩
  · rintro ⟨resolved, own, u, inner, v, found, own', entered, rfl, rfl, rfl⟩
    refine ⟨⟨resolved, found, bindEnds.mpr ⟨some own, u, own', ?_⟩⟩, nofun⟩
    exact bindEnds.mpr ⟨inner, _, notingEnds.mpr ⟨v, entered, rfl⟩, rfl⟩

theorem stepsEnd {index : Nat} {first : Step} {rest : List Step} {tally : Tally} :
    steps context index (first :: rest) s = .ok tally t ↔
      (∃ u, GuardFails context first (Clock.emit (.transition .guardCheck) s) u ∧
        tally = Tally.oneStep + { Tally.none with skipped := rest.length } ∧
        t = Clock.emit (.guardFalse index rest.length) (Clock.emit (.transition .aborted) u)) ∨
      ∃ phase counted u others,
        (step context first s = .ok (phase, counted) u ∧ phase ≠ .aborted) ∧
        steps context (index + 1) rest u = .ok others t ∧ tally = counted + others := by
  rw [steps, bindEnds]
  constructor
  · rintro ⟨⟨phase, counted⟩, u, ran, ended⟩
    by_cases aborted : phase = .aborted
    · subst aborted
      obtain ⟨rfl, v, guard, rfl⟩ := stepAborted.mp ran
      cases ended
      exact .inl ⟨v, guard, rfl, rfl⟩
    · simp only [if_neg aborted] at ended
      obtain ⟨others, v, ran', ⟨⟩⟩ := bindEnds.mp ended
      exact .inr ⟨phase, counted, u, others, ⟨ran, aborted⟩, ran', rfl⟩
  · rintro (⟨u, guard, rfl, rfl⟩ | ⟨phase, counted, u, others, ⟨done, goesOn⟩, ran, rfl⟩)
    · exact ⟨_, _, stepAborted.mpr ⟨rfl, u, guard, rfl⟩, rfl⟩
    · refine ⟨_, u, done, ?_⟩
      simp only [if_neg goesOn]
      exact bindEnds.mpr ⟨others, t, ran, rfl⟩

end Parts

section Course

variable {s t : σ} {body resolved : StepBody} {own inner : Tally} {list : List Step}
  {executed : List Execution} {entered : List Scenario}

theorem ownAccounts (found : body.resolve context.mapping = .ok resolved)
    (ran : ownPhases context resolved s = .ok (some own) t) :
    Accounts (own + (.none + .oneStep)) 1 [⟨body, false⟩] [] := by
  have counted := ownPhasesCount context resolved s _ t trivial ran own rfl
  rw [StepBody.navigatesResolved found] at counted
  subst counted
  refine ⟨rfl, rfl, ?_⟩
  rw [List.countP_singleton]
  simp only [Execution.navigates, Bool.not_false, Bool.true_and]
  rfl

theorem Accounts.around {e : Execution} (step : Accounts (own + (.none + .oneStep)) 1 [e] [])
    (counts : Accounts inner list.length executed entered) :
    Accounts (own + (inner + .oneStep)) 1 (e :: executed) (list :: entered) := by
  have both := step.append counts
  rw [Tally.noneAdd, Tally.addAssoc, Tally.addComm .oneStep] at both
  refine ⟨both.steps, ?_, both.navigations⟩
  rw [both.reached, List.map_cons, List.sum_cons, Nat.add_assoc]
  rfl

mutual

theorem stepCourse (first : Step) {s t : σ} {phase : Phase} {counted : Tally}
    (done : step context first s = .ok (phase, counted) t ∧ phase ≠ .aborted) :
    ∃ executed entered, Completes context first s executed entered t ∧
      Accounts counted 1 executed entered :=
  match first with
  | ⟨body, none⟩ => by
    obtain ⟨resolved, own, u, inner, v, found, ran, inside, -, rfl, rfl⟩ := stepDone.mp done
    rw [nestedOf] at inside
    cases inside
    exact ⟨_, _, .plain found ran, ownAccounts found ran⟩
  | ⟨body, some list⟩ => by
    obtain ⟨resolved, own, u, inner, v, found, ran, inside, -, rfl, rfl⟩ := stepDone.mp done
    rw [nestedOf] at inside
    obtain ⟨executed, entered, course, counts⟩ := stepsCourse list 0 inside
    exact ⟨_, _, .nesting found ran course, (ownAccounts found ran).around counts⟩

theorem stepsCourse (list : List Step) (index : Nat) {s t : σ} {tally : Tally}
    (ran : steps context index list s = .ok tally t) :
    ∃ executed entered, Runs context index list s executed entered t ∧
      Accounts tally list.length executed entered :=
  match list with
  | [] => by
    rw [steps] at ran
    cases ran
    exact ⟨_, _, .finished, .nothing⟩
  | first :: rest => by
    obtain ⟨u, guard, rfl, rfl⟩ | ⟨phase, counted, u, others, done, onward, rfl⟩ :=
      stepsEnd.mp ran
    · exact ⟨_, _, .cut guard, .cutShort first.body rest.length⟩
    · obtain ⟨executed, entered, completes, counts⟩ := stepCourse first done
      obtain ⟨executed', entered', course, counts'⟩ := stepsCourse rest (index + 1) onward
      refine ⟨_, _, .onward completes course, ?_⟩
      rw [List.length_cons, Nat.add_comm]
      exact counts.append counts'

end

mutual

theorem stepOfCourse (first : Step) {s t : σ} {executed : List Execution} {entered : List Scenario}
    (completes : Completes context first s executed entered t) :
    ∃ phase counted, (step context first s = .ok (phase, counted) t ∧ phase ≠ .aborted) ∧
      Accounts counted 1 executed entered := by
  match first, completes with
  | ⟨body, none⟩, .plain found ran =>
    have inside (u : σ) : enterNoted (nestedOf context none) u = .ok Tally.none u := by
      rw [nestedOf]
      rfl
    exact ⟨_, _, stepDone.mpr ⟨_, _, _, _, _, found, ran, inside _, rfl, rfl, rfl⟩,
      ownAccounts found ran⟩
  | ⟨body, some list⟩, .nesting found ran course =>
    obtain ⟨tally, inside, counts⟩ := stepsOfCourse list course
    exact ⟨_, _, stepDone.mpr ⟨_, _, _, _, _, found, ran, inside, rfl, rfl, rfl⟩,
      (ownAccounts found ran).around counts⟩

theorem stepsOfCourse (list : List Step) {index : Nat} {s t : σ} {executed : List Execution}
    {entered : List Scenario} (course : Runs context index list s executed entered t) :
    ∃ tally, steps context index list s = .ok tally t ∧
      Accounts tally list.length executed entered := by
  match list, course with
  | [], .finished => exact ⟨.none, by rw [steps]; rfl, .nothing⟩
  | first :: rest, .cut guard =>
    exact ⟨_, stepsEnd.mpr (.inl ⟨_, guard, rfl, rfl⟩), .cutShort first.body rest.length⟩
  | first :: rest, .onward completes others =>
    obtain ⟨phase, counted, done, counts⟩ := stepOfCourse first completes
    obtain ⟨tally, onward, counts'⟩ := stepsOfCourse rest others
    refine ⟨_, stepsEnd.mpr (.inr ⟨phase, counted, _, tally, done, onward, rfl⟩), ?_⟩
    rw [List.length_cons, Nat.add_comm]
    exact counts.append counts'

end

mutual

theorem completesUnguarded (first : Step) {s t : σ} {executed : List Execution}
    {entered : List Scenario} (unguarded : ∀ body ∈ first.bodies, body.execif = none)
    (completes : Completes context first s executed entered t) :
    executed = first.bodies.map (⟨·, false⟩) ∧
      1 + (entered.map List.length).sum = first.bodies.length := by
  match first, completes with
  | ⟨body, none⟩, .plain .. => exact ⟨rfl, rfl⟩
  | ⟨body, some list⟩, .nesting _ _ course =>
    have inside : ∀ body ∈ Step.bodiesOf list, body.execif = none :=
      fun _ member => unguarded _ (List.mem_cons_of_mem _ member)
    obtain ⟨rfl, reached⟩ := runsUnguarded list inside course
    refine ⟨rfl, ?_⟩
    rw [List.map_cons, List.sum_cons, reached]
    exact Nat.add_comm ..

theorem runsUnguarded (list : List Step) {index : Nat} {s t : σ} {executed : List Execution}
    {entered : List Scenario} (unguarded : ∀ body ∈ Step.bodiesOf list, body.execif = none)
    (course : Runs context index list s executed entered t) :
    executed = (Step.bodiesOf list).map (⟨·, false⟩) ∧
      list.length + (entered.map List.length).sum = (Step.bodiesOf list).length := by
  match list, course with
  | [], .finished => exact ⟨rfl, rfl⟩
  | ⟨body, nested⟩ :: rest, .cut guard =>
    obtain ⟨resolved, guard, found, guarded, -⟩ := guard
    have absent : body.execif = none :=
      unguarded body (List.mem_append_left _ List.mem_cons_self)
    cases guarded.symm.trans (StepBody.unguardedResolved found absent)
  | first :: rest, .onward completes others =>
    obtain ⟨rfl, reached⟩ := completesUnguarded first
      (fun _ member => unguarded _ (List.mem_append_left _ member)) completes
    obtain ⟨rfl, reached'⟩ := runsUnguarded rest
      (fun _ member => unguarded _ (List.mem_append_right _ member)) others
    rw [Step.bodiesOf, List.map_append, List.map_append, List.sum_append, List.length_append,
      List.length_cons]
    exact ⟨rfl, by omega⟩

end

theorem Accounts.unguarded {tally : Tally} (bodies : List StepBody) {length : Nat}
    (counts : Accounts tally length (bodies.map (⟨·, false⟩)) entered)
    (reached : length + (entered.map List.length).sum = bodies.length) :
    tally = { steps := bodies.length, skipped := 0,
              navigations := bodies.countP StepBody.navigates } := by
  have steps := counts.steps
  have all := counts.reached
  have navigations := counts.navigations
  rw [List.length_map] at steps
  rw [List.countP_map] at navigations
  exact Tally.eqOf steps (by show tally.skipped = 0; omega) navigations

end Course

theorem scenarioEnds {list : Scenario} {s t : σ} {tally : Tally} :
    scenario context list s = .ok tally t ↔
      ∃ u, steps context 0 list s = .ok tally u ∧
        t = Clock.emit (.finished tally.steps tally.skipped tally.navigations) u := by
  rw [scenario, bindEnds]
  constructor
  · rintro ⟨found, u, ran, ⟨⟩⟩
    exact ⟨u, ran, rfl⟩
  · rintro ⟨u, ran, rfl⟩
    exact ⟨tally, u, ran, rfl⟩

/-- The counts of a scenario are those of the steps its run comes to and of the lists it enters.
Without guards these are all its steps. -/
theorem runAccounted (context : RunContext) (list : Scenario) {s t : σ} {tally : Tally} :
    (scenario context list s = .ok tally t ↔
      ∃ executed entered u, Runs context 0 list s executed entered u ∧
        t = Clock.emit (.finished tally.steps tally.skipped tally.navigations) u ∧
        tally.steps = executed.length ∧
        tally.steps + tally.skipped = ((list :: entered).map List.length).sum ∧
        tally.navigations = executed.countP Execution.navigates) ∧
    (scenario context list s = .ok tally t → tally.navigations ≤ tally.steps) ∧
    ((∀ body ∈ Step.bodiesOf list, body.execif = none) → scenario context list s = .ok tally t →
      tally = { steps := (Step.bodiesOf list).length, skipped := 0,
                navigations := (Step.bodiesOf list).countP StepBody.navigates }) := by
  refine ⟨⟨fun ran => ?_, ?_⟩, fun ran => ?_, fun unguarded ran => ?_⟩
  · obtain ⟨u, listed, rfl⟩ := scenarioEnds.mp ran
    obtain ⟨executed, entered, course, counts⟩ := stepsCourse list 0 listed
    exact ⟨executed, entered, u, course, rfl, counts.steps, counts.reached, counts.navigations⟩
  · rintro ⟨executed, entered, u, course, rfl, steps, reached, navigations⟩
    obtain ⟨counted, ran, counts⟩ := stepsOfCourse list course
    obtain rfl : counted = tally := counts.unique ⟨steps, reached, navigations⟩
    exact scenarioEnds.mpr ⟨u, ran, rfl⟩
  · obtain ⟨u, listed, -⟩ := scenarioEnds.mp ran
    obtain ⟨executed, entered, -, counts⟩ := stepsCourse list 0 listed
    exact counts.navigationsAtMost
  · obtain ⟨u, listed, -⟩ := scenarioEnds.mp ran
    obtain ⟨executed, entered, course, counts⟩ := stepsCourse list 0 listed
    obtain ⟨rfl, reached⟩ := runsUnguarded list unguarded course
    exact counts.unguarded _ reached

def followed : Scenario :=
  [{ body := { StepBody.empty with link := some (.value greeting) }
     nested := some [.checking [greets (.value greeting)]] },
   .acting []]

theorem followedAccounted :
    (∀ body ∈ Step.bodiesOf followed, body.execif = none) ∧
    (∃ tally t, scenario ⟨.default, [], []⟩ followed greetingPage = .ok tally t ∧
      tally = { steps := (Step.bodiesOf followed).length, skipped := 0,
                navigations := (Step.bodiesOf followed).countP StepBody.navigates }) ∧
    ∃ tally t executed entered u,
      scenario ⟨.default, [], []⟩ (.nesting (early :: followed) :: followed) greetingPage =
        .ok tally t ∧
      Runs ⟨.default, [], []⟩ 0 (.nesting (early :: followed) :: followed) greetingPage executed
        entered u ∧
      tally.steps = executed.length ∧ tally.navigations ≤ tally.steps := by
  have unguarded : ∀ body ∈ Step.bodiesOf followed, body.execif = none := by decide
  have ran : (scenario ⟨.default, [], []⟩ followed).run' greetingPage =
      some { steps := 3, skipped := 0, navigations := 1 } := by decide +kernel
  have cut : (scenario ⟨.default, [], []⟩ (.nesting (early :: followed) :: followed)).run'
      greetingPage = some { steps := 5, skipped := 2, navigations := 1 } := by decide +kernel
  obtain ⟨t, ended⟩ := okOfRun ran
  obtain ⟨t', ended'⟩ := okOfRun cut
  obtain ⟨executed, entered, u, course, -, steps, -⟩ := (runAccounted _ _).1.mp ended'
  exact ⟨unguarded, ⟨_, t, ended, (runAccounted _ _).2.2 unguarded ended⟩,
    _, t', executed, entered, u, ended', course, steps, (runAccounted _ _).2.1 ended'⟩

end Run

end PageCheck
