import PageCheck.Proofs.Alike

/-!
Computations that change nothing where they are run. What such a computation sees in a state is its
answer or its failure there. All reading of the page is made of them.
-/
namespace PageCheck

variable {σ α β : Type}

def resultIn (outcome : Except Failure α) (s : σ) : EStateM.Result Failure σ α :=
  match outcome with
  | .ok value => .ok value s
  | .error failure => .error failure s

theorem resultInInj {outcome outcome' : Except Failure α} {s t : σ}
    (same : resultIn outcome s = resultIn outcome' t) : outcome = outcome' ∧ s = t := by
  cases outcome <;> cases outcome' <;> cases same <;> exact ⟨rfl, rfl⟩

theorem resultInOf (x : Check σ α) (s : σ) : ∃ outcome t, x s = resultIn outcome t := by
  cases ended : x s with
  | ok value t => exact ⟨.ok value, t, rfl⟩
  | error failure t => exact ⟨.error failure, t, rfl⟩

def Sees (s : σ) (x : Check σ α) (outcome : Except Failure α) : Prop := x s = resultIn outcome s

namespace Sees

variable {s : σ} {x : Check σ α}

theorem pure (value : α) : Sees s (Pure.pure value : Check σ α) (.ok value) := rfl

theorem throw (failure : Failure) :
    Sees s (MonadExcept.throw failure : Check σ α) (.error failure) := rfl

theorem ofExcept (outcome : Except Failure α) : Sees s (Check.ofExcept outcome) outcome := by
  cases outcome <;> rfl

theorem bind {f : α → Check σ β} {value : α} {outcome : Except Failure β}
    (first : Sees s x (.ok value)) (next : Sees s (f value) outcome) :
    Sees s (x >>= f) outcome := by
  show EStateM.bind x f s = _
  unfold EStateM.bind
  rw [first]
  exact next

theorem bindError (f : α → Check σ β) {failure : Failure} (first : Sees s x (.error failure)) :
    Sees s (x >>= f) (.error failure) := by
  show EStateM.bind x f s = _
  unfold EStateM.bind
  rw [first]
  rfl

theorem map (f : α → β) {value : α} (seen : Sees s x (.ok value)) :
    Sees s (f <$> x) (.ok (f value)) := by
  rw [map_eq_pure_bind]
  exact seen.bind (.pure _)

theorem tryCatch (handler : Failure → Check σ α) {value : α} (seen : Sees s x (.ok value)) :
    Sees s (MonadExcept.tryCatch x handler) (.ok value) := by
  show EStateM.tryCatch x handler s = _
  delta EStateM.tryCatch
  rw [seen]
  rfl

theorem tryCatchError {handler : Failure → Check σ α} {failure : Failure}
    {outcome : Except Failure α} (seen : Sees s x (.error failure))
    (handled : Sees s (handler failure) outcome) :
    Sees s (MonadExcept.tryCatch x handler) outcome := by
  show EStateM.tryCatch x handler s = _
  delta EStateM.tryCatch
  rw [seen]
  exact handled

theorem ask {operation : EStateM HostError σ α} {value : α} (answers : operation s = .ok value s) :
    Sees s (Check.ask operation) (.ok value) := by
  simp only [Sees, Check.ask, answers]
  rfl

theorem attempt {operation : EStateM HostError σ α} {value : α}
    (answers : operation s = .ok value s) :
    Sees s (Check.attempt operation) (.ok (.ok value)) := by
  simp only [Sees, Check.attempt, answers]
  rfl

theorem unique {outcome outcome' : Except Failure α} (seen : Sees s x outcome)
    (seen' : Sees s x outcome') : outcome = outcome' :=
  (resultInInj (seen.symm.trans seen')).1

end Sees

end PageCheck
