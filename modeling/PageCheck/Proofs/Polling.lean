import PageCheck.Browser.World
import PageCheck.Poll
import PageCheck.Proofs.Sees

/-!
Polling on the in-memory browser with looks that change nothing. Time passes between two looks
only, and the last look is made exactly at the deadline. So the outcome of polling is what one look
sees at the end, and nothing but the clock has changed. When it ends depends only on the times at
which a look decides: this is said of two pages at once, and of one page as of twice the same.
-/
namespace PageCheck.Poller

open Browser (World)

variable {α ω : Type}

theorem passTwice (w : World) (time later : Nat) :
    (w.pass time).pass later = w.pass (time + later) := by
  simp [World.pass, Nat.add_assoc]

inductive Ends (timeout : Nat) (look : Check World (Attempt α ω)) (w : World) :
    EStateM.Result Failure World (Polled α ω) → Prop where
  | ready {time : Nat} {value : α} (inTime : time ≤ timeout)
    (seen : Sees (w.pass time) look (.ok (.done value))) :
    Ends timeout look w (.ok (.ready value) (w.pass time))
  | timedOut {observed : ω} (seen : Sees (w.pass timeout) look (.ok (.again observed))) :
    Ends timeout look w (.ok (.timedOut observed) (w.pass timeout))
  | failed {time : Nat} {failure : Failure} (inTime : time ≤ timeout)
    (seen : Sees (w.pass time) look (.error failure)) :
    Ends timeout look w (.error failure (w.pass time))

def ending : Attempt α ω → Polled α ω
  | .done value => .ready value
  | .again observed => .timedOut observed

def isUndecided : Except Failure (Attempt α ω) → Bool
  | .ok (.again _) => true
  | _ => false

theorem undecidedIff {outcome : Except Failure (Attempt α ω)} :
    isUndecided outcome = true ↔ ∃ observed, outcome = .ok (.again observed) := by
  match outcome with
  | .error failure => exact ⟨nofun, nofun⟩
  | .ok (.done value) => exact ⟨nofun, nofun⟩
  | .ok (.again observed) => exact ⟨fun _ => ⟨observed, rfl⟩, fun _ => rfl⟩

section Attempts

variable {p : Poller} {look look' : Check World (Attempt α ω)} {w : World}
  {view view' : World → Except Failure (Attempt α ω)} {deadline limit made : Nat}

theorem lastLook {outcome : Except Failure (Attempt α ω)} (seen : Sees w look outcome)
    (last : isUndecided outcome = false ∨ limit = 0 ∨ deadline ≤ w.now) :
    p.attempts deadline look limit made w = resultIn (outcome.map ending) w := by
  cases limit with
  | zero =>
    match outcome with
    | .error failure => exact seen.bindError _
    | .ok (.done value) => exact seen.bind (.pure _)
    | .ok (.again observed) => exact seen.bind rfl
  | succ limit =>
    match outcome with
    | .error failure => exact seen.bindError _
    | .ok (.done value) => exact seen.bind (.pure _)
    | .ok (.again observed) =>
      have late : deadline ≤ w.now := by simpa [isUndecided] using last
      refine seen.bind ?_
      show (if deadline ≤ w.now then _ else _ : Check World (Polled α ω)) w = _
      rw [if_pos late]
      rfl

theorem delayed {observed : ω} (seen : Sees w look (.ok (.again observed))) {remaining rest : Nat}
    (early : remaining ≠ 0) (split : remaining = min p.interval remaining + rest) :
    p.attempts (w.now + remaining) look (limit + 1) made w =
      p.attempts ((w.pass (min p.interval remaining)).now + rest) look limit (made + 1)
        (w.pass (min p.interval remaining)) := by
  have deadline : (w.pass (min p.interval remaining)).now + rest = w.now + remaining := by
    simp only [World.pass]
    omega
  rw [deadline]
  show EStateM.bind look _ w = _
  unfold EStateM.bind
  rw [seen]
  show ((if w.now + remaining ≤ w.now then expire (made + 1) observed
    else do
      Check.sleep (min p.interval (w.now + remaining - w.now))
      p.attempts (w.now + remaining) look limit (made + 1)) : Check World (Polled α ω)) w = _
  rw [if_neg (by omega), Nat.add_sub_cancel_left]
  rfl

theorem attemptsTogether (sees : ∀ page, Sees page look (view page))
    (sees' : ∀ page, Sees page look' (view' page)) {remaining : Nat} (made : Nat) (w w' : World)
    (same : ∀ time ≤ remaining,
      isUndecided (view (w.pass time)) = isUndecided (view' (w'.pass time))) :
    ∃ elapsed ≤ remaining,
      p.attempts (w.now + remaining) look limit made w =
        resultIn ((view (w.pass elapsed)).map ending) (w.pass elapsed) ∧
      p.attempts (w'.now + remaining) look' limit made w' =
        resultIn ((view' (w'.pass elapsed)).map ending) (w'.pass elapsed) ∧
      (0 < p.interval → remaining ≤ limit → isUndecided (view (w.pass elapsed)) = true →
        elapsed = remaining) := by
  induction limit generalizing remaining made w w' with
  | zero =>
    exact ⟨0, Nat.zero_le _, lastLook (sees w) (.inr (.inl rfl)),
      lastLook (sees' w') (.inr (.inl rfl)), fun _ enough _ => (Nat.le_zero.mp enough).symm⟩
  | succ limit ih =>
    by_cases late : remaining = 0
    · subst late
      exact ⟨0, Nat.le_refl 0, lastLook (sees w) (.inr (.inr (Nat.le_refl _))),
        lastLook (sees' w') (.inr (.inr (Nat.le_refl _))), fun _ _ _ => rfl⟩
    have now : isUndecided (view w) = isUndecided (view' w') := same 0 (Nat.zero_le _)
    cases undecided : isUndecided (view w) with
    | false =>
      refine ⟨0, Nat.zero_le _, lastLook (sees w) (.inl undecided),
        lastLook (sees' w') (.inl (now ▸ undecided)), fun _ _ again => ?_⟩
      cases undecided.symm.trans again
    | true =>
      obtain ⟨observed, again⟩ := undecidedIff.mp undecided
      obtain ⟨observed', again'⟩ := undecidedIff.mp (now ▸ undecided)
      -- the same delay for both, and the same rest of the time after it
      obtain ⟨rest, split⟩ : ∃ rest, remaining = min p.interval remaining + rest :=
        ⟨remaining - min p.interval remaining, by omega⟩
      have later : ∀ time ≤ rest,
          isUndecided (view ((w.pass (min p.interval remaining)).pass time)) =
            isUndecided (view' ((w'.pass (min p.interval remaining)).pass time)) := by
        intro time inTime
        rw [passTwice, passTwice]
        exact same _ (by omega)
      obtain ⟨elapsed, inTime, ran, ran', atEnd⟩ := ih (made + 1) _ _ later
      rw [passTwice] at ran ran' atEnd
      refine ⟨min p.interval remaining + elapsed, by omega, ?_, ?_, ?_⟩
      · rw [delayed (again ▸ sees w) late split]
        exact ran
      · rw [delayed (again' ▸ sees' w') late split]
        exact ran'
      · intro positive enough undecided
        have last := atEnd positive (by omega) undecided
        omega

end Attempts

theorem startedTogether (p : Poller) {look look' : Check World (Attempt α ω)}
    {view view' : World → Except Failure (Attempt α ω)}
    (sees : ∀ page, Sees page look (view page)) (sees' : ∀ page, Sees page look' (view' page))
    {limit : Nat} (enough : p.timeout ≤ limit) {w w' : World} (same : ∀ time ≤ p.timeout,
      isUndecided (view (w.pass time)) = isUndecided (view' (w'.pass time))) :
    ∃ elapsed ≤ p.timeout,
      (do let start ← Check.now; p.attempts (start + p.timeout) look limit 0 : Check World _) w =
        resultIn ((view (w.pass elapsed)).map ending) (w.pass elapsed) ∧
      (do let start ← Check.now; p.attempts (start + p.timeout) look' limit 0 : Check World _) w' =
        resultIn ((view' (w'.pass elapsed)).map ending) (w'.pass elapsed) ∧
      (0 < p.interval → isUndecided (view (w.pass elapsed)) = true → elapsed = p.timeout) := by
  obtain ⟨elapsed, inTime, ran, ran', atEnd⟩ := attemptsTogether sees sees' 0 w w' same
  exact ⟨elapsed, inTime, ran, ran', fun positive => atEnd positive enough⟩

theorem runTogether (p : Poller) {look look' : Check World (Attempt α ω)}
    {view view' : World → Except Failure (Attempt α ω)}
    (sees : ∀ page, Sees page look (view page)) (sees' : ∀ page, Sees page look' (view' page))
    {w w' : World} (same : ∀ time ≤ p.timeout,
      isUndecided (view (w.pass time)) = isUndecided (view' (w'.pass time))) :
    ∃ elapsed ≤ p.timeout,
      p.run look w = resultIn ((view (w.pass elapsed)).map ending) (w.pass elapsed) ∧
      p.run look' w' = resultIn ((view' (w'.pass elapsed)).map ending) (w'.pass elapsed) ∧
      (0 < p.interval → isUndecided (view (w.pass elapsed)) = true → elapsed = p.timeout) := by
  have enough : p.timeout ≤ p.attemptLimit := Nat.le_add_right _ _
  exact p.startedTogether sees sees' enough same

theorem runLast (p : Poller) {look : Check World (Attempt α ω)}
    {view : World → Except Failure (Attempt α ω)} (sees : ∀ w, Sees w look (view w)) (w : World) :
    ∃ elapsed ≤ p.timeout,
      p.run look w = resultIn ((view (w.pass elapsed)).map ending) (w.pass elapsed) := by
  obtain ⟨elapsed, inTime, ran, -⟩ := p.runTogether sees sees fun _ _ => rfl
  exact ⟨elapsed, inTime, ran⟩

theorem runEnds (p : Poller) (positive : 0 < p.interval) {look : Check World (Attempt α ω)}
    (still : ∀ w, ∃ outcome, Sees w look outcome) (w : World) :
    Ends p.timeout look w (p.run look w) := by
  obtain ⟨view, sees⟩ := Classical.skolem.mp still
  obtain ⟨elapsed, inTime, ran, -, atEnd⟩ := p.runTogether sees sees fun _ _ => rfl
  have last := sees (w.pass elapsed)
  rw [ran]
  cases seen : view (w.pass elapsed) with
  | error failure =>
    rw [seen] at last
    exact .failed inTime last
  | ok attempt =>
    rw [seen] at last
    cases attempt with
    | done value => exact .ready inTime last
    | again observed =>
      rw [seen] at atEnd
      obtain rfl : elapsed = p.timeout := atEnd positive rfl
      exact .timedOut last

end PageCheck.Poller
