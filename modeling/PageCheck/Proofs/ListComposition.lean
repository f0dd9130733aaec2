import PageCheck.Proofs.Alike
import PageCheck.Proofs.StraightStep

/-!
Running one list of steps after another. A list that fails, or is cut short by a false guard, does
not come to what is put behind it; any other list is followed by it. A guard cuts short the list of
its own step only.
-/
namespace PageCheck.Run

variable {σ E : Type} [Host σ E] {context : RunContext}

def GuardFails (context : RunContext) (first : Step) (s t : σ) : Prop :=
  ∃ resolved guard, first.body.resolve context.mapping = .ok resolved ∧
    resolved.execif = some guard ∧
    guard.evaluate context.settings context.predicates s = .ok false t

inductive CutShort (context : RunContext) : Scenario → σ → Prop where
  | here {first rest s t} (guard : GuardFails context first s t) :
      CutShort context (first :: rest) s
  | later {first rest s t counted} (done : step context first s = .ok (.done, counted) t)
      (cut : CutShort context rest t) : CutShort context (first :: rest) s

theorem guardHoldsFalse {body : StepBody} {s t : σ} :
    guardHolds context body s = .ok false t ↔
      ∃ guard, body.execif = some guard ∧
        guard.evaluate context.settings context.predicates s = .ok false t := by
  unfold guardHolds
  cases body.execif with
  | none => exact ⟨(nomatch ·), fun ⟨_, absent, _⟩ => nomatch absent⟩
  | some guard => exact ⟨fun fails => ⟨guard, rfl, fails⟩, fun ⟨_, rfl, fails⟩ => fails⟩

theorem ownWorkNone {body : StepBody} {s t : σ} :
    ownWork context body s = .ok none t ↔ guardHolds context body s = .ok false t := by
  unfold ownWork
  cases asked : guardHolds context body s with
  | error failure u =>
    rw [bindOfError asked]
    exact ⟨(nomatch ·), (nomatch ·)⟩
  | ok holds u =>
    rw [bindOfOk asked]
    cases holds with
    | false => exact ⟨fun | rfl => rfl, fun | rfl => rfl⟩
    | true =>
      have ignoring {α : Type} {x : Check σ α} : Ensures (fun _ => True) x fun _ _ => True :=
        fun _ _ _ _ _ => trivial
      -- what follows a guard that holds is counted, unless it fails
      have counts : Ensures (fun _ => True) (do
          let loaded ← navigate context.settings body
          forEach (Action.perform context.settings) body.actions
          verifyAll context body
          return some { Tally.none with navigations := if loaded then 1 else 0 } : Check σ _)
          fun counted _ => counted ≠ none :=
        .bind ignoring fun _ => .bind ignoring fun _ => .bind ignoring fun _ =>
          .pure fun _ _ => nofun
      exact ⟨fun ended => absurd rfl (counts u none t trivial ended), (nomatch ·)⟩

theorem guardFails {first : Step} {resolved : StepBody} {s t : σ}
    (found : first.body.resolve context.mapping = .ok resolved) :
    GuardFails context first s t ↔ ownWork context resolved s = .ok none t := by
  rw [ownWorkNone, guardHoldsFalse]
  constructor
  · rintro ⟨resolved', guard, found', guarded, fails⟩
    cases found.symm.trans found'
    exact ⟨guard, guarded, fails⟩
  · rintro ⟨guard, guarded, fails⟩
    exact ⟨resolved, guard, found, guarded, fails⟩

variable [Quiet σ]

inductive StepEnd (context : RunContext) (first : Step) (s : σ) : Prop where
  | fails {failure t} (failed : step context first s = .error failure t)
      (passed : ∀ t, ¬GuardFails context first s t)
  | ends {counted t} (done : step context first s = .ok (.done, counted) t)
      (passed : ∀ t, ¬GuardFails context first s t)
  | aborts {t} (aborted : step context first s = .ok (.aborted, .oneStep) t)
      (guard : GuardFails context first s t)

theorem stepEnd (context : RunContext) (first : Step) (s : σ) : StepEnd context first s := by
  obtain ⟨body, nested⟩ := first
  cases found : body.resolve context.mapping with
  | error failure =>
    obtain ⟨told, t, raised, _⟩ :=
      Report.raiseFails (α := Phase × Tally) context.settings.debug body failure s
    refine .fails ((stepUnresolved found).trans raised) ?_
    rintro u ⟨resolved, _, found', _⟩
    exact nomatch found.symm.trans found'
  | ok resolved =>
    have passes {outcome} (own : ownWork context resolved s = outcome)
        (other : ∀ t, outcome ≠ .ok none t) : ∀ t, ¬GuardFails context ⟨body, nested⟩ s t :=
      fun t fails => other t (own.symm.trans ((guardFails found).mp fails))
    cases own : ownWork context resolved s with
    | error failure t =>
      obtain ⟨told, u, raised, _⟩ :=
        Report.raiseFails (α := Phase × Tally) context.settings.debug resolved failure t
      exact .fails ((stepFails found own).trans raised) (passes own nofun)
    | ok counted t =>
      cases counted with
      | none => exact .aborts (stepAborts found own) ((guardFails found).mpr own)
      | some counted =>
        cases inner : enter (nestedOf context nested) t with
        | error failure u =>
          obtain ⟨told, v, raised, _⟩ :=
            Report.raiseFails (α := Phase × Tally) context.settings.debug resolved failure u
          exact .fails ((stepFailsInside found own inner).trans raised) (passes own nofun)
        | ok tally u => exact .ends (stepEnds found own inner) (passes own nofun)

theorem guardAborts {first : Step} {s t : σ} (fails : GuardFails context first s t) :
    step context first s = .ok (.aborted, .oneStep) t := by
  obtain ⟨body, nested⟩ := first
  have ⟨_, _, found, _⟩ := fails
  exact stepAborts found ((guardFails found).mp fails)

theorem addSkipped (a b : Tally) (count : Nat) :
    a + { b with skipped := b.skipped + count } =
      { a + b with skipped := (a + b).skipped + count } :=
  Tally.eqOf rfl (Nat.add_assoc ..).symm rfl

variable {xs : Scenario} {s t : σ}

theorem appendFails {failure : Failure} (ys : Scenario)
    (failed : scenario context xs s = .error failure t) :
    scenario context (xs ++ ys) s = .error failure t := by
  induction xs generalizing s with
  | nil =>
    rw [scenarioNil] at failed
    cases failed
  | cons first rest ih =>
    cases stepEnd context first s with
    | fails failed' =>
      cases (firstFails rest failed').symm.trans failed
      exact firstFails _ failed'
    | aborts aborted => exact nomatch (firstAborts rest aborted).symm.trans failed
    | @ends counted u done =>
      cases ran : scenario context rest u with
      | ok others v =>
        have ended := (firstDone rest done).trans (bindOfOk ran _)
        exact nomatch ended.symm.trans failed
      | error failure' v =>
        cases ((firstDone rest done).trans (bindOfError ran _)).symm.trans failed
        exact (firstDone _ done).trans (bindOfError (ih ran) _)

theorem appendRuns {tally : Tally} (ys : Scenario) (ran : scenario context xs s = .ok tally t)
    (whole : ¬CutShort context xs s) :
    scenario context (xs ++ ys) s = (do return tally + (← scenario context ys)) t := by
  induction xs generalizing s tally with
  | nil =>
    rw [scenarioNil] at ran
    cases ran
    simp only [List.nil_append, Tally.noneAdd, bind_pure]
  | cons first rest ih =>
    cases stepEnd context first s with
    | fails failed => exact nomatch (firstFails rest failed).symm.trans ran
    | aborts _ guard => exact absurd (.here guard) whole
    | @ends counted u done =>
      cases next : scenario context rest u with
      | error failure v =>
        have ended := (firstDone rest done).trans (bindOfError next _)
        exact nomatch ended.symm.trans ran
      | ok others v =>
        cases ((firstDone rest done).trans (bindOfOk next _)).symm.trans ran
        have followed := ih next fun cut => whole (.later done cut)
        rw [List.cons_append, firstDone _ done, bindOfSame followed]
        simp only [bind_assoc, pure_bind, Tally.addAssoc]

theorem cutShortAt (cut : CutShort context xs s) :
    ∃ before first after, ∃ kept : Tally, ∃ t, xs = before ++ first :: after ∧
      ∀ others : Scenario, scenario context (before ++ first :: others) s =
        .ok { kept with skipped := kept.skipped + others.length } t := by
  induction cut with
  | @here first rest s t guard =>
    refine ⟨[], first, rest, .oneStep, t, rfl, fun others => ?_⟩
    exact firstAborts others (guardAborts guard)
  | @later first rest s u counted done _ ih =>
    obtain ⟨before, cutting, after, kept, t, rfl, same⟩ := ih
    refine ⟨first :: before, cutting, after, counted + kept, t, rfl, fun others => ?_⟩
    rw [List.cons_append, firstDone _ done, bindOfOk (same others)]
    exact congrArg (EStateM.Result.ok · t) (addSkipped ..)

theorem firstPasses {first : Step} (rest : Scenario) (passed : ∀ t, ¬GuardFails context first s t) :
    scenario context (first :: rest) s = (do
      let here ← scenario context [first]
      return here + (← scenario context rest)) s := by
  cases stepEnd context first s with
  | aborts _ guard => exact absurd guard (passed _)
  | fails failed => rw [firstFails _ failed, bindOfError (firstFails [] failed)]
  | @ends counted u done =>
    have alone : scenario context [first] s = .ok (counted + .none) u := by
      rw [firstDone _ done, scenarioNil, pure_bind]
      rfl
    rw [firstDone _ done, bindOfOk alone]
    rfl

/-- Lists of steps compose, and a false guard cuts exactly the rest of its own list. -/
theorem scenarioAppend (context : RunContext) (xs ys : Scenario) (s : σ) :
    (∀ failure t, scenario context xs s = .error failure t →
      scenario context (xs ++ ys) s = .error failure t) ∧
    (CutShort context xs s → ∃ tally t,
      scenario context xs s = .ok tally t ∧
      scenario context (xs ++ ys) s =
        .ok { tally with skipped := tally.skipped + ys.length } t ∧
      ∃ before first after, xs = before ++ first :: after ∧ ∀ others : Scenario,
        scenario context (before ++ first :: others) s =
          .ok { tally with skipped := tally.skipped - after.length + others.length } t) ∧
    (∀ tally t, scenario context xs s = .ok tally t → ¬CutShort context xs s →
      scenario context (xs ++ ys) s = (do return tally + (← scenario context ys)) t) ∧
    (∀ first, (∀ t, ¬GuardFails context first s t) →
      scenario context (first :: ys) s = (do
        let here ← scenario context [first]
        return here + (← scenario context ys)) s) := by
  refine ⟨fun _ _ => appendFails ys, fun cut => ?_, fun _ _ => appendRuns ys,
    fun first passed => ?_⟩
  · obtain ⟨before, first, after, kept, t, rfl, same⟩ := cutShortAt cut
    refine ⟨_, t, same after, ?_, before, first, after, rfl, fun others => ?_⟩
    · rw [List.append_assoc, List.cons_append, same, List.length_append, Nat.add_assoc]
    · rw [same, Nat.add_sub_cancel]
  · exact firstPasses ys passed

def refused : Step := .guarded [[.flag (.value false)]]

def unknownPage : Step := .visit (.reference { key := "page", append := [] })

def refusals : Scenario := [.nesting [refused, unknownPage], refused, unknownPage]

def noEntries : RunContext := { settings := .default, predicates := [], mapping := [] }

theorem scenarioAppendRefusals :
    CutShort noEntries refusals (Browser.World.start []) ∧
    scenario noEntries (refusals ++ [unknownPage]) (Browser.World.start []) =
      .ok { steps := 3, skipped := 3, navigations := 0 } (.start []) := by
  have refuses : GuardFails noEntries refused (Browser.World.start []) (.start []) :=
    ⟨_, _, rfl, rfl, rfl⟩
  have entered : step noEntries (.nesting [refused, unknownPage]) (Browser.World.start []) =
    .ok (.done, { steps := 2, skipped := 1, navigations := 0 }) (.start []) := rfl
  have cut : CutShort noEntries refusals (Browser.World.start []) := .later entered (.here refuses)
  have short : scenario noEntries refusals (Browser.World.start []) =
    .ok { steps := 3, skipped := 2, navigations := 0 } (.start []) := rfl
  obtain ⟨tally, t, ran, longer, _⟩ :=
    (scenarioAppend noEntries refusals [unknownPage] (Browser.World.start [])).2.1 cut
  cases short.symm.trans ran
  exact ⟨cut, longer⟩

end PageCheck.Run
