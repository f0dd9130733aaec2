import PageCheck.Host

/-!
Computations that cannot be told apart. Two computations over different states are alike, with
respect to a relation between the states, when from related states they give the same answer or
the same failure and leave related states. A computation that is alike to itself keeps what the
relation says of one state, whether it fails or not. `Ensures` is about answers only.
-/
namespace PageCheck

variable {ε σ τ α β : Type}

inductive SameResult (R : σ → τ → Prop) : EStateM.Result ε σ α → EStateM.Result ε τ α → Prop where
  | ok (value : α) {s t} (related : R s t) : SameResult R (.ok value s) (.ok value t)
  | error (failure : ε) {s t} (related : R s t) : SameResult R (.error failure s) (.error failure t)

def Alike (R : σ → τ → Prop) (x : EStateM ε σ α) (y : EStateM ε τ α) : Prop :=
  ∀ s t, R s t → SameResult R (x s) (y t)

namespace Alike

variable {R : σ → τ → Prop}

theorem pure (value : α) : Alike R (Pure.pure value : EStateM ε σ α) (Pure.pure value) :=
  fun _ _ related => .ok value related

theorem throw (failure : ε) :
    Alike R (MonadExcept.throw failure : EStateM ε σ α) (MonadExcept.throw failure) :=
  fun _ _ related => .error failure related

theorem bind {x : EStateM ε σ α} {y : EStateM ε τ α} {f : α → EStateM ε σ β}
    {g : α → EStateM ε τ β} (first : Alike R x y) (next : ∀ value, Alike R (f value) (g value)) :
    Alike R (x >>= f) (y >>= g) := by
  intro s t related
  have result := first s t related
  simp only [Bind.bind, EStateM.bind]
  generalize x s = left at result ⊢
  generalize y t = right at result ⊢
  cases result with
  | ok value related => exact next value _ _ related
  | error failure related => exact .error failure related

theorem ite {c : Prop} [Decidable c] {x x' : EStateM ε σ α} {y y' : EStateM ε τ α}
    (yes : c → Alike R x y) (no : ¬c → Alike R x' y') :
    Alike R (if c then x else x') (if c then y else y') := by
  by_cases h : c
  · simpa only [if_pos h] using yes h
  · simpa only [if_neg h] using no h

theorem map {x : EStateM ε σ α} {y : EStateM ε τ α} (f : α → β) (alike : Alike R x y) :
    Alike R (f <$> x) (f <$> y) := by
  rw [map_eq_pure_bind, map_eq_pure_bind]
  exact alike.bind fun value => .pure (f value)

theorem tryCatch {x : EStateM ε σ α} {y : EStateM ε τ α} {f : ε → EStateM ε σ α}
    {g : ε → EStateM ε τ α} (part : Alike R x y)
    (handler : ∀ failure, Alike R (f failure) (g failure)) :
    Alike R (MonadExcept.tryCatch x f) (MonadExcept.tryCatch y g) := by
  intro s t related
  have result := part s t related
  show SameResult R (EStateM.tryCatch x f s) (EStateM.tryCatch y g t)
  delta EStateM.tryCatch
  generalize x s = left at result ⊢
  generalize y t = right at result ⊢
  cases result with
  | ok value related => exact .ok value related
  | error failure related => exact handler failure _ _ related

theorem ofExcept (value : Except Failure α) :
    Alike R (Check.ofExcept value : Check σ α) (Check.ofExcept value) := by
  cases value with
  | ok value => exact .pure value
  | error failure => exact .throw failure

theorem ask {x : EStateM HostError σ α} {y : EStateM HostError τ α} (alike : Alike R x y) :
    Alike R (Check.ask x) (Check.ask y) := by
  intro s t related
  have result := alike s t related
  simp only [Check.ask]
  generalize x s = left at result ⊢
  generalize y t = right at result ⊢
  cases result with
  | ok value related => exact .ok value related
  | error e related => exact .error (Failure.host e) related

theorem attempt {x : EStateM HostError σ α} {y : EStateM HostError τ α} (alike : Alike R x y) :
    Alike R (Check.attempt x) (Check.attempt y) := by
  intro s t related
  have result := alike s t related
  simp only [Check.attempt]
  generalize x s = left at result ⊢
  generalize y t = right at result ⊢
  cases result with
  | ok value related => exact .ok (Except.ok value) related
  | error e related => exact .ok (Except.error e) related

end Alike

def Staying (I : σ → Prop) (s t : σ) : Prop := s = t ∧ I s

def Keeps (I : σ → Prop) (x : EStateM ε σ α) : Prop := Alike (Staying I) x x

theorem keepsResult {I : σ → Prop} {x : EStateM ε σ α} :
    Keeps I x ↔ ∀ s, I s → match x s with | .ok _ t => I t | .error _ t => I t := by
  constructor
  · intro keeps s held
    have result := keeps s s ⟨rfl, held⟩
    generalize x s = outcome at result ⊢
    cases result with
    | ok value related => exact related.2
    | error failure related => exact related.2
  · rintro kept s _ ⟨rfl, held⟩
    have after := kept s held
    generalize x s = outcome at after ⊢
    cases outcome with
    | ok value t => exact .ok value ⟨rfl, after⟩
    | error failure t => exact .error failure ⟨rfl, after⟩

def Ensures (P : σ → Prop) (x : EStateM ε σ α) (Q : α → σ → Prop) : Prop :=
  ∀ s value t, P s → x s = .ok value t → Q value t

namespace Ensures

variable {P P' : σ → Prop} {Q Q' : α → σ → Prop}

theorem pure {value : α} (h : ∀ s, P s → Q value s) :
    Ensures P (Pure.pure value : EStateM ε σ α) Q := by
  intro s value t held answered
  cases answered
  exact h s held

theorem throw (failure : ε) : Ensures P (MonadExcept.throw failure : EStateM ε σ α) Q := by
  intro s value t held answered
  cases answered

theorem bind {x : EStateM ε σ α} {f : α → EStateM ε σ β} {Q' : β → σ → Prop}
    (first : Ensures P x Q) (next : ∀ value, Ensures (Q value) (f value) Q') :
    Ensures P (x >>= f) Q' := by
  intro s value t held answered
  simp only [Bind.bind, EStateM.bind] at answered
  split at answered
  · next middle s' atMiddle =>
    exact next middle s' value t (first s middle s' held atMiddle) answered
  · cases answered

theorem ite {c : Prop} [Decidable c] {x y : EStateM ε σ α} (yes : c → Ensures P x Q)
    (no : ¬c → Ensures P y Q) : Ensures P (if c then x else y) Q := by
  by_cases h : c
  · simpa only [if_pos h] using yes h
  · simpa only [if_neg h] using no h

theorem tryCatch {x : EStateM ε σ α} {f : ε → EStateM ε σ α} (part : Ensures P x Q)
    (handler : ∀ failure, Ensures (fun _ => True) (f failure) fun _ _ => False) :
    Ensures P (MonadExcept.tryCatch x f) Q := by
  intro s value t held answered
  cases outcome : x s with
  | ok found after =>
    have same : MonadExcept.tryCatch x f s = x s := by
      show EStateM.tryCatch x f s = _
      delta EStateM.tryCatch
      rw [outcome]
    exact part s value t held (same ▸ answered)
  | error failure after =>
    have handled : MonadExcept.tryCatch x f s = f failure after := by
      show EStateM.tryCatch x f s = _
      delta EStateM.tryCatch
      rw [outcome]
      rfl
    exact (handler failure after value t trivial (handled ▸ answered)).elim

theorem weaken {x : EStateM ε σ α} (h : Ensures P x Q) (before : ∀ s, P' s → P s)
    (after : ∀ value s, Q value s → Q' value s) : Ensures P' x Q' :=
  fun s value t held answered => after value t (h s value t (before s held) answered)

theorem given {fact : Prop} {x : EStateM ε σ α} (h : fact → Ensures P x Q) :
    Ensures (fun s => P s ∧ fact) x Q :=
  fun s value t held answered => h held.2 s value t held.1 answered

theorem and {x : EStateM ε σ α} (left : Ensures P x Q) (right : Ensures P' x Q') :
    Ensures (fun s => P s ∧ P' s) x fun value s => Q value s ∧ Q' value s :=
  fun s value t held answered =>
    ⟨left s value t held.1 answered, right s value t held.2 answered⟩

theorem ofKeeps {I : σ → Prop} {x : EStateM ε σ α} (keeps : Keeps I x) :
    Ensures I x fun _ => I := by
  intro s value t held answered
  have kept := keepsResult.mp keeps s held
  rw [answered] at kept
  exact kept

end Ensures

end PageCheck
