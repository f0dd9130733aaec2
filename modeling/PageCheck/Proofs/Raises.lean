import PageCheck.Run

/-!
What computations fail with. Resolving fails on an entry that is missing or does not fit. What
holds of the failures of two parts holds of those of their sequence.
-/
namespace PageCheck

def Fails {α : Type} (P : Failure → Prop) (outcome : Except Failure α) : Prop :=
  ∀ failure, outcome = .error failure → P failure

namespace Fails

variable {α β : Type} {P : Failure → Prop}

theorem ok (value : α) : Fails P (.ok value) := nofun

theorem error {failure : Failure} (holds : P failure) :
    Fails P (.error failure : Except Failure α) := by
  rintro _ ⟨⟩
  exact holds

theorem mono {Q : Failure → Prop} {outcome : Except Failure α} (fails : Fails P outcome)
    (wider : ∀ failure, P failure → Q failure) : Fails Q outcome :=
  fun failure failed => wider failure (fails failure failed)

theorem bind {outcome : Except Failure α} {next : α → Except Failure β} (first : Fails P outcome)
    (rest : ∀ value, Fails P (next value)) : Fails P (outcome >>= next) := by
  cases outcome with
  | ok value => exact rest value
  | error failure => exact .error (first failure rfl)

theorem one {outcome : Except Failure α} (build : α → β) (fails : Fails P outcome) :
    Fails P (do return build (← outcome)) :=
  fails.bind fun _ => .ok _

theorem option {resolve : α → Except Failure α} (each : ∀ part, Fails P (resolve part))
    (part : Option α) : Fails P (resolveOption resolve part) := by
  cases part with
  | none => exact .ok _
  | some part => exact (each part).one some

theorem items {resolve : α → Except Failure α} (each : ∀ item, Fails P (resolve item))
    (list : List α) : Fails P (resolveItems resolve list) := by
  induction list with
  | nil => exact .ok _
  | cons first rest ih => exact (each first).bind fun _ => ih.bind fun _ => .ok _

end Fails

inductive Unfit : Failure → Prop where
  | missing (key : String) : Unfit (.missingPlaceholder key)
  | wrong (key expected found : String) : Unfit (.scenario (.wrongEntry key expected found))

theorem Mapping.entryFails (m : Mapping) (key : String) : Fails Unfit (m.entry key) := by
  unfold Mapping.entry
  cases m.get? key with
  | none => exact .error (.missing key)
  | some found => exact .ok found

mutual

theorem Segment.resolveFails (m : Mapping) : (segment : Segment) → Fails Unfit (segment.resolve m)
  | .literal text => by
    unfold Segment.resolve
    exact .ok text
  | .reference key append => by
    unfold Segment.resolve
    exact (m.entryFails key).bind fun _ => (Segment.resolveAllFails m append).bind fun _ => .ok _

theorem Segment.resolveAllFails (m : Mapping) :
    (list : List Segment) → Fails Unfit (Segment.resolveAll m list)
  | [] => by
    unfold Segment.resolveAll
    exact .ok _
  | segment :: rest => by
    unfold Segment.resolveAll
    refine (Segment.resolveFails m segment).bind fun _ => ?_
    exact (Segment.resolveAllFails m rest).bind fun _ => .ok _

end

theorem Placeholder.resolveFails (m : Mapping) (p : Placeholder) : Fails Unfit (p.resolve m) := by
  refine (m.entryFails p.key).bind fun base => ?_
  cases p.append with
  | nil => exact .ok base
  | cons first rest => exact (Segment.resolveAllFails m _).bind fun _ => .ok _

class FailingSlot (α : Type) [Slot α] : Prop where
  ofEntry (key : String) (entry : Entry) : Fails Unfit (Slot.ofEntry (α := α) key entry)

instance : FailingSlot String := ⟨fun _ _ => .ok _⟩

instance : FailingSlot Locator := ⟨fun key entry => by
  cases entry with
  | locator value => exact .ok value
  | _ => exact .error (.wrong ..)⟩

instance : FailingSlot Bool := ⟨fun key entry => by
  cases entry with
  | bool value => exact .ok value
  | _ => exact .error (.wrong ..)⟩

theorem Deferred.resolveFails {α : Type} [Slot α] [FailingSlot α] (m : Mapping) (d : Deferred α) :
    Fails Unfit (d.resolve m) := by
  cases d with
  | value literal => exact .ok _
  | reference placeholder =>
    refine (placeholder.resolveFails m).bind fun entry => ?_
    exact (FailingSlot.ofEntry placeholder.key entry).bind fun _ => .ok _

theorem Target.resolveFails (m : Mapping) (target : Target) : Fails Unfit (target.resolve m) := by
  cases target with
  | element locator => exact (locator.resolveFails m).one Target.element
  | html => exact .ok _
  | url => exact .ok _

theorem Expected.resolveFails (m : Mapping) (expected : Expected) :
    Fails Unfit (expected.resolve m) := by
  cases expected with
  | one value => exact (value.resolveFails m).one Expected.one
  | many values => exact (Fails.items (Deferred.resolveFails m) values).one Expected.many

theorem Criterion.resolveFails (m : Mapping) (c : Criterion) : Fails Unfit (c.resolve m) := by
  cases c with
  | relates relation expected => exact (expected.resolveFails m).one (Criterion.relates relation)
  | likes expected => exact (expected.resolveFails m).one Criterion.likes
  | notLikes expected => exact (expected.resolveFails m).one Criterion.notLikes
  | satisfies predicate => exact .ok _

theorem Presence.resolveFails (m : Mapping) (p : Presence) : Fails Unfit (p.resolve m) :=
  (p.target.resolveFails m).bind fun _ => .ok _

theorem Demand.resolveFails (m : Mapping) (demand : Demand) : Fails Unfit (demand.resolve m) := by
  cases demand with
  | present presence => exact (presence.resolveFails m).one Demand.present
  | absent presence => exact (presence.resolveFails m).one Demand.absent
  | compare c =>
    refine Fails.one Demand.compare ((c.target.resolveFails m).bind fun _ => ?_)
    exact (c.criterion.resolveFails m).bind fun _ => .ok _

theorem Assertion.resolveFails (m : Mapping) (a : Assertion) : Fails Unfit (a.resolve m) :=
  (a.demand.resolveFails m).bind fun _ => .ok _

theorem Condition.resolveFails (m : Mapping) (c : Condition) : Fails Unfit (c.resolve m) := by
  cases c with
  | flag value => exact (value.resolveFails m).one Condition.flag
  | assertion a => exact (a.resolveFails m).one Condition.assertion

theorem Frame.resolveFails (m : Mapping) (frame : Frame) : Fails Unfit (frame.resolve m) := by
  cases frame with
  | top => exact .ok _
  | within locator => exact (locator.resolveFails m).one Frame.within

theorem Deed.resolveFails (m : Mapping) (deed : Deed) : Fails Unfit (deed.resolve m) := by
  have group (build : Deferred Locator → List (Deferred String) → Deed) (target : Deferred Locator)
      (values : List (Deferred String)) : Fails Unfit (do
        let target ← target.resolve m
        return build target (← resolveItems (Deferred.resolve m) values)) :=
    (target.resolveFails m).bind fun _ => (Fails.items (Deferred.resolveFails m) values).one _
  cases deed with
  | click target => exact (target.resolveFails m).one Deed.click
  | sendKeys target value =>
    exact (target.resolveFails m).bind fun _ => (value.resolveFails m).one _
  | clear target mode => exact (target.resolveFails m).bind fun _ => .ok _
  | check target values => exact group Deed.check target values
  | select target values => exact group Deed.select target values
  | unselect target values => exact group Deed.unselect target values
  | alert answer => exact .ok _
  | switchTo frame => exact (frame.resolveFails m).one Deed.switchTo

theorem Action.resolveFails (m : Mapping) (action : Action) : Fails Unfit (action.resolve m) :=
  (action.deed.resolveFails m).bind fun _ => .ok _

theorem StepBody.resolveFails (m : Mapping) (b : StepBody) : Fails Unfit (b.resolve m) := by
  refine (Fails.option (Deferred.resolveFails m) b.url).bind fun _ => ?_
  refine (Fails.option (Deferred.resolveFails m) b.link).bind fun _ => ?_
  refine (Fails.option (Fails.items (Fails.items (Condition.resolveFails m))) b.execif).bind ?_
  refine fun _ => (Fails.items (Action.resolveFails m) b.actions).bind fun _ => ?_
  exact (Fails.items (Assertion.resolveFails m) b.checks).bind fun _ => .ok _

section Results

variable {ε σ α β : Type} {s t : σ} {x : EStateM ε σ α}

theorem bindOfOk {value : α} (ran : x s = .ok value t) (f : α → EStateM ε σ β) :
    (x >>= f) s = f value t := by
  show EStateM.bind x f s = _
  unfold EStateM.bind
  rw [ran]

theorem bindOfError {failure : ε} (failed : x s = .error failure t) (f : α → EStateM ε σ β) :
    (x >>= f) s = .error failure t := by
  show EStateM.bind x f s = _
  unfold EStateM.bind
  rw [failed]

theorem bindOfSame {y : EStateM ε σ α} (same : x s = y t) (f : α → EStateM ε σ β) :
    (x >>= f) s = (y >>= f) t := by
  show EStateM.bind x f s = EStateM.bind y f t
  unfold EStateM.bind
  rw [same]

theorem bindEnds {f : α → EStateM ε σ β} {value : β} :
    (x >>= f) s = .ok value t ↔ ∃ found u, x s = .ok found u ∧ f found u = .ok value t := by
  cases ran : x s with
  | ok found u =>
    rw [bindOfOk ran]
    constructor
    · intro ended
      exact ⟨found, u, rfl, ended⟩
    · rintro ⟨_, _, ⟨⟩, ended⟩
      exact ended
  | error failure u =>
    rw [bindOfError ran]
    exact iff_of_false nofun nofun

theorem bindFails {f : α → EStateM ε σ β} {failure : ε} :
    (x >>= f) s = .error failure t ↔ x s = .error failure t ∨
      ∃ found u, x s = .ok found u ∧ f found u = .error failure t := by
  cases ran : x s with
  | ok found u =>
    rw [bindOfOk ran]
    constructor
    · intro failed
      exact .inr ⟨found, u, rfl, failed⟩
    · rintro (failed | ⟨_, _, ⟨⟩, failed⟩)
      · cases failed
      · exact failed
  | error failure u =>
    rw [bindOfError ran]
    simp

theorem ofExceptOk {outcome : Except Failure α} {value : α}
    (ran : (Check.ofExcept outcome : Check σ α) s = .ok value t) : outcome = .ok value ∧ s = t := by
  cases outcome with
  | ok found => cases ran; exact ⟨rfl, rfl⟩
  | error failure => cases ran

theorem ofExceptError {outcome : Except Failure α} {failure : Failure}
    (failed : (Check.ofExcept outcome : Check σ α) s = .error failure t) :
    outcome = .error failure ∧ s = t := by
  cases outcome with
  | ok found => cases failed
  | error failure => cases failed; exact ⟨rfl, rfl⟩

end Results

def Raises {ε σ α : Type} (P : ε → σ → Prop) (x : EStateM ε σ α) : Prop :=
  ∀ s failure t, x s = .error failure t → P failure t

namespace Raises

section Rules

variable {ε σ α β : Type} {P : ε → σ → Prop}

theorem pure (value : α) : Raises P (Pure.pure value : EStateM ε σ α) := nofun

theorem throw {failure : ε} (holds : ∀ s, P failure s) :
    Raises P (MonadExcept.throw failure : EStateM ε σ α) := by
  rintro s _ t ⟨⟩
  exact holds s

theorem mono {Q : ε → σ → Prop} {x : EStateM ε σ α} (raises : Raises P x)
    (wider : ∀ failure t, P failure t → Q failure t) : Raises Q x :=
  fun s failure t failed => wider failure t (raises s failure t failed)

theorem bindGiven {x : EStateM ε σ α} {f : α → EStateM ε σ β} (first : Raises P x)
    (rest : ∀ s value t, x s = .ok value t → ∀ failure u, f value t = .error failure u →
      P failure u) : Raises P (x >>= f) := by
  intro s failure t failed
  simp only [Bind.bind, EStateM.bind] at failed
  split at failed
  · next ran => exact rest _ _ _ ran _ _ failed
  · next failed' =>
    cases failed
    exact first _ _ _ failed'

theorem bind {x : EStateM ε σ α} {f : α → EStateM ε σ β} (first : Raises P x)
    (rest : ∀ value, Raises P (f value)) : Raises P (x >>= f) :=
  first.bindGiven fun _ value t _ => rest value t

theorem ite {c : Prop} [Decidable c] {x y : EStateM ε σ α} (yes : Raises P x) (no : Raises P y) :
    Raises P (if c then x else y) := by
  split
  · exact yes
  · exact no

theorem map (f : α → β) {x : EStateM ε σ α} (raises : Raises P x) : Raises P (f <$> x) := by
  rw [map_eq_pure_bind]
  exact raises.bind fun _ => .pure _

theorem tryCatch {Q : ε → σ → Prop} {x : EStateM ε σ α} {f : ε → EStateM ε σ α}
    (part : Raises P x)
    (handler : ∀ caught s, P caught s → ∀ failure t, f caught s = .error failure t →
      Q failure t) : Raises Q (MonadExcept.tryCatch x f) := by
  intro s failure t failed
  change EStateM.tryCatch x f s = _ at failed
  delta EStateM.tryCatch at failed
  cases outcome : x s with
  | ok value u =>
    rw [outcome] at failed
    cases failed
  | error caught u =>
    rw [outcome] at failed
    exact handler caught u (part s caught u outcome) failure t failed

end Rules

section Checks

variable {σ α β : Type} {P : Failure → σ → Prop}

theorem ofExcept {outcome : Except Failure α} (fails : ∀ s, Fails (P · s) outcome) :
    Raises P (Check.ofExcept outcome : Check σ α) := by
  rintro s failure t failed
  cases outcome with
  | ok value => cases failed
  | error found =>
    cases failed
    exact fails s _ rfl

theorem given {outcome : Except Failure α} {f : α → Check σ β} (fails : ∀ s, Fails (P · s) outcome)
    (rest : ∀ value, outcome = .ok value → Raises P (f value)) :
    Raises P (Check.ofExcept outcome >>= f) := by
  cases outcome with
  | ok value => exact rest value rfl
  | error failure =>
    rintro s _ t ⟨⟩
    exact fails s failure rfl

theorem askError {operation : EStateM HostError σ α} {s t : σ} {failure : Failure}
    (failed : Check.ask operation s = .error failure t) :
    ∃ e, failure = .host e ∧ operation s = .error e t := by
  unfold Check.ask at failed
  split at failed
  · cases failed
  · next e u failed' =>
    cases failed
    exact ⟨e, rfl, failed'⟩

theorem ask {operation : EStateM HostError σ α} (raises : Raises (fun e => P (.host e)) operation) :
    Raises P (Check.ask operation) := by
  intro s failure t failed
  obtain ⟨e, rfl, failed'⟩ := askError failed
  exact raises s e t failed'

theorem attemptOk {operation : EStateM HostError σ α} {s t : σ} {value : α}
    (answered : Check.attempt operation s = .ok (.ok value) t) : operation s = .ok value t := by
  unfold Check.attempt at answered
  split at answered
  · next ran =>
    cases answered
    exact ran
  · cases answered

theorem attemptError {operation : EStateM HostError σ α} {s t : σ} {e : HostError}
    (refused : Check.attempt operation s = .ok (.error e) t) : operation s = .error e t := by
  unfold Check.attempt at refused
  split at refused
  · cases refused
  · next failed =>
    cases refused
    exact failed

theorem attemptNever {operation : EStateM HostError σ α} {s t : σ} {failure : Failure} :
    Check.attempt operation s ≠ .error failure t := by
  unfold Check.attempt
  split <;> exact nofun

theorem attempt {operation : EStateM HostError σ α} {f : Except HostError α → Check σ β}
    (answered : ∀ value, Raises P (f (.ok value)))
    (refused : ∀ {s e t}, operation s = .error e t →
      ∀ failure u, f (.error e) t = .error failure u → P failure u) :
    Raises P (Check.attempt operation >>= f) := by
  refine bindGiven ?_ fun s found t attempted => ?_
  · intro s failure t failed
    unfold Check.attempt at failed
    split at failed <;> cases failed
  · unfold Check.attempt at attempted
    split at attempted
    · cases attempted
      exact answered _ t
    · next failed =>
      cases attempted
      exact refused failed

theorem throwUnless {c : Prop} [Decidable c] {x : Check σ α} {failure : Failure} {t : σ}
    (raises : Raises P x) (holds : P failure t) :
    ∀ told u, (if c then x else MonadExcept.throw failure : Check σ α) t = .error told u →
      P told u := by
  split
  · exact raises t
  · rintro _ _ ⟨⟩
    exact holds

theorem emit [Clock σ] (event : Event) : Raises P (Check.emit event : Check σ Unit) := nofun

theorem now [Clock σ] : Raises P (Check.now : Check σ Nat) := nofun

theorem sleep [Clock σ] (time : Nat) : Raises P (Check.sleep time : Check σ Unit) := nofun

omit P in
theorem forEach {P : Failure → σ → Prop} {act : α → Check σ Unit} (items : List α)
    (each : ∀ item ∈ items, Raises P (act item)) : Raises P (Run.forEach act items) := by
  induction items with
  | nil => exact .pure _
  | cons first rest ih =>
    refine (each first List.mem_cons_self).bind fun _ => ih fun item member => ?_
    exact each item (List.mem_cons_of_mem _ member)

end Checks

section Polling

variable {σ α ω : Type} [Clock σ] {P : Failure → σ → Prop}

theorem expire (made : Nat) (observed : ω) :
    Raises P (Poller.expire made observed : Check σ (Polled α ω)) :=
  (emit _).bind fun _ => .pure _

theorem attempts (p : Poller) (deadline : Nat) {look : Check σ (Attempt α ω)}
    (raises : Raises P look) (limit made : Nat) :
    Raises P (p.attempts deadline look limit made) := by
  induction limit generalizing made with
  | zero =>
    refine raises.bind fun outcome => ?_
    cases outcome with
    | done value => exact .pure _
    | again observed => exact .expire _ observed
  | succ limit ih =>
    refine raises.bind fun outcome => ?_
    cases outcome with
    | done value => exact .pure _
    | again observed =>
      exact now.bind fun _ => .ite (.expire _ observed) ((sleep _).bind fun _ => ih _)

theorem poll (p : Poller) {look : Check σ (Attempt α ω)} (raises : Raises P look) :
    Raises P (p.run look) :=
  now.bind fun _ => .attempts p _ raises _ _

end Polling

end Raises

end PageCheck
