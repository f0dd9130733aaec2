import PageCheck.Proofs.Alike
import PageCheck.Run

/-!
Invariants of successful runs. What holds of the state may differ from phase to phase. If the work
of each phase leads from what holds before it to what holds before the next one, then whatever
holds before a step holds after every list of steps, nested lists included.
-/
namespace PageCheck.Run

variable {σ E : Type} [Host σ E] {context : RunContext}

structure PhaseInvariant (context : RunContext) (inv : Phase → σ → Prop) : Prop where
  emit {phase s} (event : Event) : inv phase s → inv phase (Clock.emit event s)
  guarded {s} : inv .pending s → inv .guardCheck s
  unguarded {s} : inv .pending s → inv .navigate s
  guard (g : Guard) : Ensures (inv .guardCheck) (g.evaluate context.settings context.predicates)
    fun holds => inv (if holds then .navigate else .aborted)
  navigate (body : StepBody) :
    Ensures (inv .navigate) (navigate context.settings body) fun _ => inv .actions
  perform (action : Action) :
    Ensures (inv .actions) (action.perform context.settings) fun _ => inv .actions
  acted {s} : inv .actions s → inv .checks s
  verify (a : Assertion) :
    Ensures (inv .checks) (a.verify context.settings context.predicates) fun _ => inv .checks
  scan : Ensures (inv .checks) scanConsole fun _ => inv .nested
  enter {s} : inv .nested s → inv .pending s
  leave {s} : inv .pending s → inv .done s
  finish {phase s} : isFinal phase = true → inv phase s → inv .pending s

theorem emitEnsures {P : σ → Prop} (event : Event) (kept : ∀ s, P s → P (Clock.emit event s)) :
    Ensures P (Check.emit event) fun _ => P := by
  intro s value t held answered
  cases answered
  exact kept s held

theorem withinEnsures {α : Type} {P : σ → Prop} {Q : α → σ → Prop} (debug : Bool)
    (body : StepBody) {part : Check σ α} (ensures : Ensures P part Q) :
    Ensures P (Report.within debug body part) Q :=
  ensures.tryCatch fun _ => .bind (Q := fun _ _ => True) (fun _ _ _ _ _ => trivial) .throw

theorem forEachEnsures {α : Type} {P : σ → Prop} {act : α → Check σ Unit}
    (each : ∀ item, Ensures P (act item) fun _ => P) (items : List α) :
    Ensures P (forEach act items) fun _ => P := by
  induction items with
  | nil => exact .pure fun _ held => held
  | cons first rest ih => exact (each first).bind fun _ => ih

theorem advanceApproaches (body : StepBody) (nested : Option (Nested σ)) {phase : Phase}
    (active : isFinal phase = false) :
    Ensures (fun _ => True) (advance context body nested phase)
      fun result _ => remaining result.1 < remaining phase := by
  have ignoring {α : Type} {x : Check σ α} : Ensures (fun _ => True) x fun _ _ => True :=
    fun _ _ _ _ _ => trivial
  have asked (holds : Bool) :
      remaining (if holds then .navigate else .aborted) < remaining .guardCheck := by
    cases holds <;> decide
  cases phase with
  | pending => exact .pure fun _ _ => by dsimp only; split <;> decide
  | guardCheck =>
    unfold advance
    cases body.execif with
    | some guard => exact .bind ignoring fun holds => .pure fun _ _ => asked holds
    | none => exact .bind ignoring fun holds => .pure fun _ _ => asked holds
  | navigate => exact .bind ignoring fun _ => .pure fun _ _ => (by decide : 3 < 4)
  | actions => exact .bind ignoring fun _ => .pure fun _ _ => (by decide : 2 < 3)
  | checks =>
    exact .bind ignoring fun _ => .bind ignoring fun _ => .pure fun _ _ => (by decide : 1 < 2)
  | nested =>
    cases nested with
    | none => exact .pure fun _ _ => (by decide : 0 < 1)
    | some list =>
      exact .bind ignoring fun _ => .bind ignoring fun _ => .pure fun _ _ => (by decide : 0 < 1)
  | done => cases active
  | aborted => cases active

namespace PhaseInvariant

variable {inv : Phase → σ → Prop}

theorem advanceEnsures (h : PhaseInvariant context inv) (body : StepBody)
    {nested : Option (Nested σ)}
    (inner : ∀ list ∈ nested, Ensures (inv .pending) list.run fun _ => inv .pending)
    (phase : Phase) :
    Ensures (inv phase) (advance context body nested phase) fun result => inv result.1 := by
  cases phase with
  | pending =>
    refine .pure fun s held => ?_
    dsimp only
    split
    · exact h.guarded held
    · exact h.unguarded held
  | guardCheck =>
    unfold advance
    cases body.execif with
    | some guard => exact (h.guard guard).bind fun holds => .pure fun _ held => held
    -- a missing guard holds like the empty one
    | none => exact (h.guard []).bind fun holds => .pure fun _ held => held
  | navigate => exact (h.navigate body).bind fun _ => .pure fun _ held => held
  | actions => exact (forEachEnsures h.perform _).bind fun _ => .pure fun _ held => h.acted held
  | checks =>
    refine (forEachEnsures h.verify _).bind fun _ => h.scan.bind fun _ => .pure fun _ held => held
  | nested =>
    cases nested with
    | none => exact .pure fun _ held => h.leave (h.enter held)
    | some list =>
      refine (emitEnsures _ fun _ held => h.emit _ held).bind fun _ => ?_
      refine ((inner list rfl).weaken (fun _ held => h.enter held) fun _ _ held => held).bind ?_
      exact fun _ => .pure fun _ held => h.leave held
  | done => exact .pure fun _ held => held
  | aborted => exact .pure fun _ held => held

theorem phasesEnsure (h : PhaseInvariant context inv) (body : StepBody)
    {nested : Option (Nested σ)}
    (inner : ∀ list ∈ nested, Ensures (inv .pending) list.run fun _ => inv .pending)
    {limit : Nat} {phase : Phase} (enough : remaining phase ≤ limit)
    (active : isFinal phase = false) :
    Ensures (inv phase) (phases context body nested limit phase)
      fun result s => isFinal result.1 = true ∧ inv result.1 s := by
  -- a transition brings the step nearer to its end, so the limit is enough for a final phase
  induction limit generalizing phase with
  | zero => cases phase <;> simp_all [remaining, isFinal]
  | succ limit ih =>
    have work := (h.advanceEnsures body inner phase).and (advanceApproaches body nested active)
    refine ((withinEnsures _ body work).weaken (fun _ held => ⟨held, trivial⟩)
      fun _ _ held => held).bind fun found => ?_
    obtain ⟨next, counted⟩ := found
    refine .bind (emitEnsures _ fun _ held => ⟨h.emit _ held.1, held.2⟩) fun _ => ?_
    refine .ite (fun final => .pure fun _ held => ⟨final, held.1⟩) fun ongoing => ?_
    refine .given fun nearer => ?_
    have room : remaining next ≤ limit := Nat.le_of_lt_succ (Nat.lt_of_lt_of_le nearer enough)
    exact (ih room (by simpa using ongoing)).bind fun _ => .pure fun _ ended => ended

theorem stepWithEnsures (h : PhaseInvariant context inv) (body : StepBody)
    {nested : Option (Nested σ)}
    (inner : ∀ list ∈ nested, Ensures (inv .pending) list.run fun _ => inv .pending) :
    Ensures (inv .pending) (stepWith context body nested) fun _ => inv .pending := by
  have resolving : Ensures (inv .pending)
      (Report.within context.settings.debug body (Check.ofExcept (body.resolve context.mapping)))
      fun _ => inv .pending := by
    refine withinEnsures _ body (.ofKeeps (.ofExcept _))
  refine resolving.bind fun resolved => ?_
  exact (h.phasesEnsure resolved inner (Nat.le_refl _) rfl).weaken (fun _ held => held)
    fun _ _ held => h.finish held.1 held.2

mutual

theorem stepEnsures (h : PhaseInvariant context inv) :
    (s : Step) → Ensures (inv .pending) (step context s) fun _ => inv .pending
  | ⟨body, nested⟩ => by
    unfold step
    exact h.stepWithEnsures body (h.nestedEnsures nested)

theorem nestedEnsures (h : PhaseInvariant context inv) :
    (nested : Option (List Step)) →
      ∀ list ∈ nestedOf context nested, Ensures (inv .pending) list.run fun _ => inv .pending
  | none => by simp [nestedOf]
  | some steps => by
    unfold nestedOf
    rintro _ ⟨⟩
    exact h.stepsEnsure 0 steps

theorem stepsEnsure (h : PhaseInvariant context inv) :
    (index : Nat) → (list : List Step) →
      Ensures (inv .pending) (steps context index list) fun _ => inv .pending
  | _, [] => by unfold steps; exact .pure fun _ held => held
  | index, first :: rest => by
    unfold steps
    refine (h.stepEnsures first).bind fun (phase, counted) => .ite (fun _ => ?_) fun _ => ?_
    · exact (emitEnsures _ fun _ held => h.emit _ held).bind fun _ => .pure fun _ held => held
    · exact (h.stepsEnsure (index + 1) rest).bind fun _ => .pure fun _ held => held

end

theorem scenarioEnsures (h : PhaseInvariant context inv) (s : Scenario) :
    Ensures (inv .pending) (scenario context s) fun _ => inv .pending := by
  refine (h.stepsEnsure 0 s).bind fun _ => ?_
  exact (emitEnsures _ fun _ held => h.emit _ held).bind fun _ => .pure fun _ held => held

end PhaseInvariant
end PageCheck.Run
