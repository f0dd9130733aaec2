import PageCheck.Proofs.EagerRun
import PageCheck.Proofs.FalseGuard
import PageCheck.Proofs.RunAccount

/-!
The loop of a step over its phases against a step without phases, which does its work in one
straight line. The loop is a relation, so nothing bounds its length beforehand. It enters the phases
of the step in order and leaves out those behind a false guard or a failure.
-/
namespace PageCheck.Run

variable {σ E : Type} [Host σ E]

def line (context : RunContext) (body : StepBody) (inner : Check σ Tally) :
    Check σ (Phase × Tally) := do
  if body.navigates then
    scanConsole
    if let some url := body.url then visit context.settings url
    if let some link := body.link then follow context.settings link
    scanConsole
  body.actions.forM (Action.perform context.settings)
  body.checks.forM (Assertion.verify context.settings context.predicates)
  scanConsole
  let counted ← inner
  let navigations := if body.navigates then 1 else 0
  return (.done, { steps := 1, skipped := 0, navigations } + counted)

def guardedLine (context : RunContext) (body : StepBody) (inner : Check σ Tally) :
    Check σ (Phase × Tally) := do
  if let some guard := body.execif then
    unless ← guard.evaluate context.settings context.predicates do
      return (.aborted, { steps := 1, skipped := 0, navigations := 0 })
  line context body inner

mutual

def lineStep (context : RunContext) : Step → Check σ (Phase × Tally)
  | ⟨body, nested⟩ => do
    let resolved ← Report.within context.settings.debug body
      (Check.ofExcept (body.resolve context.mapping))
    Report.within context.settings.debug resolved
      (guardedLine context resolved (lineNested context nested))

def lineNested (context : RunContext) : Option (List Step) → Check σ Tally
  | none => return .none
  | some list => lineSteps context list

def lineSteps (context : RunContext) : List Step → Check σ Tally
  | [] => return .none
  | first :: rest => do
    let (ended, counted) ← lineStep context first
    if ended = .aborted then
      return counted + { steps := 0, skipped := rest.length, navigations := 0 }
    let others ← lineSteps context rest
    return counted + others

end

theorem forEachForM {α : Type} (act : α → Check σ Unit) (items : List α) :
    forEach act items = items.forM act := by
  induction items with
  | nil => rfl
  | cons item rest ih => simp [forEach, ih]

theorem lineWorks (context : RunContext) (body : StepBody) (inner : Check σ Tally) :
    line context body inner = (do
      let loaded ← navigate context.settings body
      forEach (Action.perform context.settings) body.actions
      verifyAll context body
      let counted ← inner
      return (.done, { Tally.none with navigations := if loaded then 1 else 0 } +
        (counted + .oneStep))) := by
  have counts (navigations : Nat) (counted : Tally) :
      ({ steps := 1, skipped := 0, navigations } : Tally) + counted =
        { Tally.none with navigations } + (counted + .oneStep) := by
    rw [Tally.addComm counted, ← Tally.addAssoc]
    rfl
  unfold line navigate verifyAll
  cases body.navigates with
  | false => simp [forEachForM, counts]
  | true => cases body.url <;> cases body.link <;> simp [forEachForM, counts]

theorem workLine (context : RunContext) (body : StepBody) (nested : Option (Nested σ)) :
    work context body nested = guardedLine context body (enter nested) := by
  unfold work ownWork guardedLine guardHolds
  cases body.execif with
  | none => simp [lineWorks]
  | some guard =>
    simp only [lineWorks, bind_assoc]
    congr 1
    funext holds
    cases holds <;> simp [Tally.oneStep, Tally.none]

mutual

theorem stepLine [Quiet σ] (context : RunContext) :
    (s : Step) → step (σ := σ) context s = lineStep context s
  | ⟨body, nested⟩ => by
    unfold step lineStep
    rw [stepStraight, straight]
    simp only [workLine, enterLine context nested]

theorem enterLine [Quiet σ] (context : RunContext) :
    (nested : Option (List Step)) →
      enter (nestedOf (σ := σ) context nested) = lineNested context nested
  | none => by
    unfold lineNested
    exact enterNothing
  | some list => by
    unfold nestedOf lineNested
    exact stepsLine context list 0

theorem stepsLine [Quiet σ] (context : RunContext) :
    (list : List Step) → (index : Nat) →
      steps (σ := σ) context index list = lineSteps context list
  | [], index => by
    unfold steps lineSteps
    rfl
  | first :: rest, index => by
    unfold steps lineSteps
    simp only [emitNothing, pure_bind, stepLine context first, stepsLine context rest]
    rfl

end

def counting (counted : Tally) :
    EStateM.Result Failure σ (Phase × Tally) → EStateM.Result Failure σ (Phase × Tally)
  | .ok (last, others) t => .ok (last, counted + others) t
  | .error failure t => .error failure t

inductive Loop (context : RunContext) (body : StepBody) (nested : Option (Nested σ)) :
    Phase → σ → List Phase → EStateM.Result Failure σ (Phase × Tally) → Prop where
  | fails {phase s failure t} (failed : advance context body nested phase s = .error failure t) :
      Loop context body nested phase s [] (Report.raise context.settings.debug body failure t)
  | stops {phase next counted s t}
      (ran : advance context body nested phase s = .ok (next, counted) t)
      (final : isFinal next = true) :
      Loop context body nested phase s [next]
        (.ok (next, counted + .oneStep) (Clock.emit (.transition next) t))
  | onward {phase next counted s t entered outcome}
      (ran : advance context body nested phase s = .ok (next, counted) t)
      (ongoing : isFinal next = false)
      (others : Loop context body nested next (Clock.emit (.transition next) t) entered outcome) :
      Loop context body nested phase s (next :: entered) (counting counted outcome)

def following (guarded : Bool) : Phase → List Phase
  | .pending =>
    if guarded then [.guardCheck, .navigate, .actions, .checks, .nested, .done]
    else [.navigate, .actions, .checks, .nested, .done]
  | .guardCheck => [.navigate, .actions, .checks, .nested, .done]
  | .navigate => [.actions, .checks, .nested, .done]
  | .actions => [.checks, .nested, .done]
  | .checks => [.nested, .done]
  | .nested => [.done]
  | .done | .aborted => []

theorem followingActive (guarded : Bool) {phase : Phase} (active : isFinal phase = false) :
    following guarded phase ≠ [] := by
  cases phase <;> cases guarded <;> simp_all [following, isFinal]

theorem abortedElsewhere (guarded : Bool) (phase : Phase) :
    .aborted ∉ following guarded phase := by
  cases phase <;> cases guarded <;> simp [following]

section Loop

variable {context : RunContext} {body : StepBody} {nested : Option (Nested σ)} {phase : Phase}
  {s : σ} {entered entered' : List Phase}
  {outcome outcome' : EStateM.Result Failure σ (Phase × Tally)}

theorem loopUnique (loop : Loop context body nested phase s entered outcome)
    (other : Loop context body nested phase s entered' outcome') :
    entered = entered' ∧ outcome = outcome' := by
  induction loop generalizing entered' outcome' with
  | fails failed => cases other <;> simp_all
  | stops ran final => cases other <;> simp_all
  | onward ran ongoing _ ih =>
    cases other with
    | fails failed => simp_all
    | stops ran' final => simp_all
    | onward ran' ongoing' others =>
      cases ran.symm.trans ran'
      obtain ⟨rfl, rfl⟩ := ih others
      exact ⟨rfl, rfl⟩

theorem advanceFollows (context : RunContext) (body : StepBody) (nested : Option (Nested σ))
    (phase : Phase) (active : isFinal phase = false) :
    Ensures (fun _ => True) (advance context body nested phase) fun result _ =>
      result.1 :: following body.execif.isSome result.1 = following body.execif.isSome phase ∨
        phase = .guardCheck ∧ result.1 = .aborted ∧ body.execif.isSome = true := by
  have ignoring {α : Type} {x : Check σ α} : Ensures (fun _ => True) x fun _ _ => True :=
    fun _ _ _ _ _ => trivial
  cases phase with
  | pending => cases guard : body.execif <;> exact .pure fun _ _ => by simp [guard, following]
  | guardCheck =>
    unfold advance
    cases body.execif with
    | none => exact .pure fun _ _ => .inl rfl
    | some guard =>
      refine ignoring.bind fun holds => .pure fun _ _ => ?_
      cases holds <;> simp [following]
  | navigate => exact ignoring.bind fun _ => .pure fun _ _ => .inl rfl
  | actions => exact ignoring.bind fun _ => .pure fun _ _ => .inl rfl
  | checks => exact ignoring.bind fun _ => ignoring.bind fun _ => .pure fun _ _ => .inl rfl
  | nested =>
    cases nested with
    | none => exact .pure fun _ _ => .inl rfl
    | some list => exact ignoring.bind fun _ => ignoring.bind fun _ => .pure fun _ _ => .inl rfl
  | done => cases active
  | aborted => cases active

inductive Covers (guarded : Bool) (phase : Phase) :
    List Phase → EStateM.Result Failure σ (Phase × Tally) → Prop where
  | all {counted t} : Covers guarded phase (following guarded phase) (.ok (.done, counted) t)
  | cut {before counted t} (asked : guarded = true)
      (reached : before ++ following guarded .guardCheck = following guarded phase) :
      Covers guarded phase (before ++ [.aborted]) (.ok (.aborted, counted) t)
  | failed {entered left failure t} (more : left ≠ [])
      (reached : entered ++ left = following guarded phase) :
      Covers guarded phase entered (.error failure t)

theorem Covers.later {guarded : Bool} {next : Phase} (counted : Tally)
    (covers : Covers guarded next entered outcome)
    (follows : next :: following guarded next = following guarded phase) :
    Covers guarded phase (next :: entered) (counting counted outcome) := by
  cases covers with
  | all =>
    rw [follows]
    exact .all
  | cut asked reached =>
    rw [← List.cons_append]
    exact .cut asked (by rw [List.cons_append, reached, follows])
  | failed more reached => exact .failed more (by rw [List.cons_append, reached, follows])

theorem loopCovers (loop : Loop context body nested phase s entered outcome)
    (active : isFinal phase = false) : Covers body.execif.isSome phase entered outcome := by
  induction loop with
  | @fails phase s failure t failed =>
    cases raised : (Report.raise context.settings.debug body failure : Check σ _) t with
    | ok value u =>
      obtain ⟨told, v, fails, -⟩ :=
        Report.raiseFails (α := Phase × Tally) context.settings.debug body failure t
      cases raised.symm.trans fails
    | error told u =>
      exact .failed (followingActive _ active) rfl
  | @stops phase next counted s t ran final =>
    rcases advanceFollows context body nested phase active s _ t trivial ran with
      follows | ⟨rfl, rfl, asked⟩
    · cases next <;> cases final
      · exact follows ▸ .all
      · exact absurd (follows ▸ List.mem_cons_self) (abortedElsewhere body.execif.isSome phase)
    · show Covers _ _ ([] ++ [.aborted]) _
      exact .cut asked rfl
  | @onward phase next counted s t entered outcome ran ongoing others ih =>
    rcases advanceFollows context body nested phase active s _ t trivial ran with
      follows | ⟨rfl, rfl, asked⟩
    · exact (ih ongoing).later counted follows
    · cases ongoing

theorem phasesOnward {next : Phase} {counted : Tally} {t : σ} (limit : Nat)
    (ongoing : isFinal next = false)
    (ran : advance context body nested phase s = .ok (next, counted) t) :
    phases context body nested (limit + 1) phase s =
      counting counted
        (phases context body nested limit next (Clock.emit (.transition next) t)) := by
  have logged : (Check.emit (.transition next) : Check σ Unit) t =
      .ok () (Clock.emit (.transition next) t) := rfl
  refine (bindOfOk (Report.withinOfOk ran) _).trans ((bindOfOk logged _).trans ?_)
  simp only [ongoing, Bool.false_eq_true, if_false]
  cases ended : phases context body nested limit next (Clock.emit (.transition next) t) with
  | ok found u => exact bindOfOk ended _
  | error failure u => exact bindOfError ended _

theorem phasesLoop {limit : Nat} (enough : remaining phase ≤ limit) (active : isFinal phase = false)
    (s : σ) :
    ∃ entered, Loop context body nested phase s entered
      (phases context body nested limit phase s) := by
  induction limit generalizing phase s with
  | zero => cases phase <;> simp_all [remaining, isFinal]
  | succ limit ih =>
    cases ran : advance context body nested phase s with
    | error failure t =>
      have ended : phases context body nested (limit + 1) phase s =
          Report.raise context.settings.debug body failure t := by
        rw [phases, bindOfSame (Report.withinOfError ran), Report.raiseBind]
      exact ⟨[], ended ▸ .fails ran⟩
    | ok found t =>
      obtain ⟨next, counted⟩ := found
      cases final : isFinal next with
      | true => exact ⟨[next], phasesEnd limit final ran ▸ .stops ran final⟩
      | false =>
        have nearer : remaining next < remaining phase :=
          advanceApproaches body nested active s _ t trivial ran
        obtain ⟨entered, others⟩ := ih (by omega) final (Clock.emit (.transition next) t)
        exact ⟨next :: entered, phasesOnward limit final ran ▸ .onward ran final others⟩

theorem Covers.bounded {guarded : Bool} (covers : Covers guarded .pending entered outcome) :
    entered.length ≤ 6 ∧ (.guardCheck ∈ entered → guarded = true) := by
  have most : (following guarded .pending).length ≤ 6 := by cases guarded <;> simp [following]
  have asked : .guardCheck ∈ following guarded .pending → guarded = true := by
    cases guarded <;> simp [following]
  cases covers with
  | all => exact ⟨most, asked⟩
  | cut holds reached =>
    have length := congrArg List.length reached
    simp only [List.length_append, List.length_cons, List.length_nil, following] at length most ⊢
    exact ⟨by omega, fun _ => holds⟩
  | failed more reached =>
    rw [← reached] at most asked
    rw [List.length_append] at most
    exact ⟨by omega, fun guard => asked (List.mem_append_left _ guard)⟩

end Loop

/-- The loop over the phases is the straight line, and makes six transitions at the most. -/
theorem loopIsStraightLine [Quiet σ] (context : RunContext) (s : Step) :
    step (σ := σ) context s = lineStep context s ∧
    ∀ resolved, s.body.resolve context.mapping = .ok resolved → ∀ start : σ, ∃ entered,
      (∀ visited outcome,
        Loop context resolved (nestedOf context s.nested) .pending start visited outcome ↔
          visited = entered ∧ outcome = lineStep context s start) ∧
      Covers s.body.execif.isSome .pending entered (lineStep context s start) ∧
      entered.length ≤ 6 ∧ (.guardCheck ∈ entered → s.body.execif.isSome = true) := by
  refine ⟨stepLine context s, fun resolved found start => ?_⟩
  obtain ⟨body, nested⟩ := s
  obtain ⟨entered, loop⟩ : ∃ entered,
      Loop context resolved (nestedOf context nested) .pending start entered
        (phases context resolved (nestedOf context nested) (remaining .pending) .pending start) :=
    phasesLoop (Nat.le_refl _) rfl start
  rw [← stepWithResolved found, ← step, stepLine] at loop
  have covers := loopCovers loop rfl
  rw [StepBody.guardedResolved found] at covers
  refine ⟨entered, fun visited outcome => ⟨fun other => loopUnique other loop, ?_⟩, covers,
    covers.bounded⟩
  rintro ⟨rfl, rfl⟩
  exact loop

def admitted : Step :=
  { body := { StepBody.empty with execif := some [[.flag (.value true)]] },
    nested := some [refused, unknownPage] }

theorem loopThroughGuard :
    admitted.body.resolve noEntries.mapping = .ok admitted.body ∧
    Loop noEntries admitted.body (nestedOf noEntries admitted.nested) .pending
      (Browser.World.start []) [.guardCheck, .navigate, .actions, .checks, .nested, .done]
      (.ok (.done, { steps := 2, skipped := 1, navigations := 0 }) (.start [])) := by
  obtain ⟨-, loops⟩ := loopIsStraightLine (σ := Browser.World) noEntries admitted
  obtain ⟨entered, loop, covers, -⟩ := loops admitted.body rfl (.start [])
  have ended : lineStep noEntries admitted (Browser.World.start []) =
    .ok (.done, { steps := 2, skipped := 1, navigations := 0 }) (.start []) := rfl
  rw [ended] at covers loop
  cases covers
  exact ⟨rfl, (loop _ _).mpr ⟨rfl, rfl⟩⟩

end PageCheck.Run
