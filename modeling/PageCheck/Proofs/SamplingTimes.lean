import PageCheck.Proofs.GuardAgreement

/-!
When polling looks. Attempts that take no time are made at the multiples of the interval before the
deadline, and at the deadline; the first of them that is done ends polling. So a condition that has
become true by the deadline and stays true is met, less than an interval later. On the in-memory
browser this decides the checks on an element that appears, or is removed, while they wait.
-/
namespace PageCheck

class ExactClock (σ : Type) [Clock σ] : Prop where
  slept (time : Nat) (s : σ) : Clock.now (Clock.sleep time s) = Clock.now s + time
  logged (event : Event) (s : σ) : Clock.now (Clock.emit event s) = Clock.now s

instance : ExactClock Browser.World where
  slept _ _ := rfl
  logged _ _ := rfl

def Polled.isReady {α ω : Type} : Polled α ω → Bool
  | .ready _ => true
  | .timedOut _ => false

namespace Poller

variable {σ : Type} [Clock σ] {α ω : Type} {p : Poller}

def Samples (p : Poller) (time : Nat) : Prop :=
  (∃ k, time = k * p.interval ∧ time < p.timeout) ∨ time = p.timeout

def following (p : Poller) (time : Nat) : Nat := time + min p.interval (p.timeout - time)

theorem samplesStart : p.Samples 0 := by
  rcases Nat.eq_zero_or_pos p.timeout with none | some
  · exact .inr none.symm
  · exact .inl ⟨0, (Nat.zero_mul _).symm, some⟩

theorem Samples.inTime {time : Nat} (sampled : p.Samples time) : time ≤ p.timeout := by
  rcases sampled with ⟨k, -, early⟩ | last
  · exact Nat.le_of_lt early
  · exact Nat.le_of_eq last

theorem Samples.following {time : Nat} (sampled : p.Samples time) (early : time < p.timeout) :
    p.Samples (p.following time) := by
  rcases sampled with ⟨k, rfl, -⟩ | last
  · by_cases full : k * p.interval + p.interval < p.timeout
    · refine .inl ⟨k + 1, ?_, ?_⟩
      · rw [Poller.following, Nat.succ_mul]
        omega
      · rw [Poller.following]
        omega
    · refine .inr ?_
      rw [Poller.following]
      omega
  · omega

theorem Samples.between {time other : Nat} (sampled : p.Samples time) (early : time < p.timeout)
    (sampled' : p.Samples other) (before : other < p.following time) : other ≤ time := by
  rw [Poller.following] at before
  rcases sampled with ⟨k, rfl, -⟩ | last
  · rcases sampled' with ⟨j, rfl, -⟩ | last
    · have step : j * p.interval < (k + 1) * p.interval := by
        rw [Nat.succ_mul]
        omega
      exact Nat.mul_le_mul_right _ (Nat.le_of_lt_succ (Nat.lt_of_mul_lt_mul_right step))
    · omega
  · omega

theorem sampleAfter (positive : 0 < p.interval) {became : Nat} (inTime : became ≤ p.timeout) :
    ∃ time, p.Samples time ∧ became ≤ time ∧ time < became + p.interval := by
  let k := (became + p.interval - 1) / p.interval
  have below : k * p.interval ≤ became + p.interval - 1 := Nat.div_mul_le_self _ _
  have above : became + p.interval - 1 < k * p.interval + p.interval :=
    Nat.lt_div_mul_add positive
  by_cases early : k * p.interval < p.timeout
  · exact ⟨k * p.interval, .inl ⟨k, rfl, early⟩, by omega, by omega⟩
  · exact ⟨p.timeout, .inr rfl, inTime, by omega⟩

def Instant (begun : Nat) (look : Nat → Attempt α ω) (attempt : Check σ (Attempt α ω)) : Prop :=
  ∀ s, begun ≤ Clock.now s →
    ∃ t, attempt s = .ok (look (Clock.now s - begun)) t ∧ Clock.now t = Clock.now s

def Lasting (look : Nat → Attempt α ω) : Prop :=
  ∀ time later, time ≤ later → (look time).isDone = true → (look later).isDone = true

inductive FirstDone (p : Poller) (look : Nat → Attempt α ω) : Polled α ω → Nat → Prop where
  | ready {time value} (sampled : p.Samples time) (done : look time = .done value)
    (first : ∀ earlier < time, p.Samples earlier → (look earlier).isDone = false) :
    FirstDone p look (.ready value) time
  | timedOut {observed} (last : look p.timeout = .again observed)
    (never : ∀ time, p.Samples time → (look time).isDone = false) :
    FirstDone p look (.timedOut observed) p.timeout

section Loop

variable {attempt : Check σ (Attempt α ω)} {deadline limit made : Nat} {observed : ω}
  {s t : σ}

theorem attemptsDone {value : α} (done : attempt s = .ok (.done value) t) :
    p.attempts deadline attempt limit made s = .ok (.ready value) t := by
  cases limit with
  | zero => exact bindOfOk done _
  | succ limit => exact bindOfOk done _

theorem attemptsLate (undone : attempt s = .ok (.again observed) t)
    (late : deadline ≤ Clock.now t) :
    p.attempts deadline attempt limit made s =
      .ok (.timedOut observed) (Clock.emit (.pollTimedOut (made + 1)) t) := by
  cases limit with
  | zero => exact bindOfOk undone _
  | succ limit =>
    refine (bindOfOk undone _).trans ?_
    show (if deadline ≤ Clock.now t then expire (made + 1) observed else _ : Check σ _) t = _
    rw [if_pos late]
    rfl

theorem attemptsEarly (undone : attempt s = .ok (.again observed) t)
    (early : Clock.now t < deadline) :
    p.attempts deadline attempt (limit + 1) made s =
      p.attempts deadline attempt limit (made + 1)
        (Clock.sleep (min p.interval (deadline - Clock.now t)) t) := by
  refine (bindOfOk undone _).trans ?_
  show (if deadline ≤ Clock.now t then _ else _ : Check σ (Polled α ω)) t = _
  rw [if_neg (Nat.not_le.mpr early)]
  rfl

variable [ExactClock σ] {begun time : Nat} {look : Nat → Attempt α ω}

theorem attemptsLast (instant : Instant begun look attempt) (now : Clock.now s = begun + time)
    (sampled : p.Samples time)
    (first : ∀ earlier < time, p.Samples earlier → (look earlier).isDone = false)
    (last : (look time).isDone = true ∨ time = p.timeout) :
    ∃ outcome ended final, p.attempts (begun + p.timeout) attempt limit made s = .ok outcome final ∧
      Clock.now final = begun + ended ∧ p.FirstDone look outcome ended := by
  obtain ⟨t, looked, still⟩ := instant s (now ▸ Nat.le_add_right _ _)
  rw [now, Nat.add_sub_cancel_left] at looked
  rw [now] at still
  cases found : look time with
  | done value =>
    rw [found] at looked
    exact ⟨_, time, t, attemptsDone looked, still, .ready sampled found first⟩
  | again observed =>
    rw [found] at looked last
    obtain rfl : time = p.timeout := last.resolve_left nofun
    refine ⟨_, p.timeout, _, attemptsLate looked (Nat.le_of_eq still.symm), ?_,
      .timedOut found fun other taken => ?_⟩
    · rw [ExactClock.logged, still]
    · rcases Nat.lt_or_eq_of_le taken.inTime with early | rfl
      · exact first other early taken
      · rw [found]
        rfl

theorem attemptsSample (positive : 0 < p.interval) (instant : Instant begun look attempt)
    (now : Clock.now s = begun + time) (sampled : p.Samples time)
    (first : ∀ earlier < time, p.Samples earlier → (look earlier).isDone = false)
    (enough : p.timeout - time ≤ limit) :
    ∃ outcome ended final, p.attempts (begun + p.timeout) attempt limit made s = .ok outcome final ∧
      Clock.now final = begun + ended ∧ p.FirstDone look outcome ended := by
  -- between a sample and the one that follows it no time is sampled
  induction limit generalizing s time made with
  | zero =>
    have last : time = p.timeout := Nat.le_antisymm sampled.inTime (Nat.sub_eq_zero_iff_le.mp
      (Nat.le_zero.mp enough))
    exact attemptsLast instant now sampled first (.inr last)
  | succ limit ih =>
    by_cases last : (look time).isDone = true ∨ time = p.timeout
    · exact attemptsLast instant now sampled first last
    · obtain ⟨undone, more⟩ := not_or.mp last
      have early : time < p.timeout := Nat.lt_of_le_of_ne sampled.inTime more
      obtain ⟨t, looked, still⟩ := instant s (now ▸ Nat.le_add_right _ _)
      rw [now, Nat.add_sub_cancel_left] at looked
      rw [now] at still
      cases found : look time with
      | done value =>
        rw [found] at undone
        exact (undone rfl).elim
      | again observed =>
        rw [found] at looked
        rw [attemptsEarly looked (by omega)]
        refine ih ?_ (sampled.following early) ?_ ?_
        · rw [ExactClock.slept, still, Nat.add_sub_add_left, following, Nat.add_assoc]
        · intro earlier before taken
          rcases Nat.lt_or_eq_of_le (sampled.between early taken before) with older | rfl
          · exact first earlier older taken
          · rw [found]
            rfl
        · rw [following]
          omega

theorem startedSample (positive : 0 < p.interval) (instant : Instant (Clock.now s) look attempt)
    (enough : p.timeout ≤ limit) :
    ∃ outcome ended final,
      (do let start ← Check.now; p.attempts (start + p.timeout) attempt limit 0) s =
        .ok outcome final ∧
      Clock.now final = Clock.now s + ended ∧ p.FirstDone look outcome ended :=
  attemptsSample positive instant (Nat.add_zero _).symm samplesStart
    (fun _ before => (Nat.not_lt_zero _ before).elim) enough

theorem runSample (positive : 0 < p.interval) (instant : Instant (Clock.now s) look attempt) :
    ∃ outcome ended final, p.run attempt s = .ok outcome final ∧
      Clock.now final = Clock.now s + ended ∧ p.FirstDone look outcome ended := by
  have enough : p.timeout ≤ p.attemptLimit := Nat.le_add_right _ _
  exact startedSample positive instant enough

end Loop

namespace FirstDone

variable {look : Nat → Attempt α ω} {outcome : Polled α ω} {ended : Nat}

theorem readyIff (h : p.FirstDone look outcome ended) :
    outcome.isReady = true ↔ ∃ time, p.Samples time ∧ (look time).isDone = true := by
  cases h with
  | ready sampled done _ => exact iff_of_true rfl ⟨_, sampled, congrArg Attempt.isDone done⟩
  | timedOut _ never =>
    refine iff_of_false nofun fun ⟨time, sampled, done⟩ => ?_
    exact Bool.false_ne_true ((never time sampled).symm.trans done)

theorem lastIff (h : p.FirstDone look outcome ended) (lasting : Lasting look) :
    outcome.isReady = true ↔ (look p.timeout).isDone = true := by
  rw [h.readyIff]
  exact ⟨fun ⟨time, sampled, done⟩ => lasting time _ sampled.inTime done,
    fun done => ⟨p.timeout, .inr rfl, done⟩⟩

theorem prompt (h : p.FirstDone look outcome ended) (positive : 0 < p.interval)
    (lasting : Lasting look) {became : Nat} (inTime : became ≤ p.timeout)
    (done : (look became).isDone = true)
    (first : ∀ earlier < became, (look earlier).isDone = false) :
    became ≤ ended ∧ ended < became + p.interval ∧ ended ≤ p.timeout := by
  obtain ⟨next, taken, after, soon⟩ := sampleAfter positive inTime
  have doneNext := lasting became next after done
  cases h with
  | ready sampled doneThen firstThen =>
    refine ⟨?_, ?_, sampled.inTime⟩
    · by_contra before
      have undone := first ended (Nat.not_le.mp before)
      rw [doneThen] at undone
      cases undone
    · by_contra late
      have undone := firstThen next (by omega) taken
      exact Bool.false_ne_true (undone.symm.trans doneNext)
  | timedOut _ never => exact (Bool.false_ne_true ((never next taken).symm.trans doneNext)).elim

end FirstDone

end Poller

namespace Browser.World

variable {w : World} {l : Locator} {n : Node} {since : Nat}

def OnlyMatch (w : World) (l : Locator) (n : Node) : Prop :=
  (w.session.nodes.filter fun other => other.isMatch l && other.frame = w.session.frame) = [n]

theorem OnlyMatch.matching (only : w.OnlyMatch l n) (loaded : w.now = w.session.loadedAt + since)
    (time : Nat) :
    (w.pass time).matching l = if n.isPresent (since + time) = true then [n] else [] := by
  have elapsed : w.now + time - w.session.loadedAt = since + time := by omega
  show (w.session.nodes.filter fun other => other.isPresent (w.now + time - w.session.loadedAt) &&
    (other.isMatch l && decide (other.frame = w.session.frame))) = _
  rw [← List.filter_filter, only, elapsed, List.filter_singleton, cond_eq_ite]

end Browser.World

open Browser (World Node)

theorem Verdict.truthful {predicates : Predicates} {a : Assertion} {allowed elapsed : Nat}
    {page : World} {outcome : Except Failure Unit}
    (verdict : Verdict predicates a allowed elapsed page outcome)
    (presence : ∀ comparison, a.demand ≠ .compare comparison) :
    (outcome = .ok () ∧ a.demand.MetOn predicates page) ∨
      (outcome ≠ .ok () ∧ elapsed = allowed ∧ ¬ a.demand.MetOn predicates page) := by
  cases verdict with
  | met _ met => exact .inl ⟨rfl, met⟩
  | missing demand target unsuited =>
    refine .inr ⟨nofun, rfl, fun met => ?_⟩
    rw [demand] at met
    obtain ⟨l, first, rest, target', located, right, displayed⟩ := met
    cases target.symm.trans target'
    rcases unsuited with nowhere | ⟨asked, given, differs⟩ | ⟨other, others, located', hidden⟩
    · cases nowhere.symm.trans located
    · exact differs (right asked given)
    · cases located'.symm.trans located
      cases hidden.symm.trans displayed
  | lasting demand target there displayed =>
    refine .inr ⟨nofun, rfl, fun met => ?_⟩
    rw [demand] at met
    obtain ⟨l, target', hidden⟩ := met
    cases target.symm.trans target'
    cases displayed.symm.trans (hidden _ there)
  | mismatch demand => exact (presence _ demand).elim
  | unmatched demand => exact (presence _ demand).elim
  | unknownPredicate _ demand => exact (presence _ demand).elim
  | several _ demand => exact (presence _ demand).elim

section Checks

variable {settings : CheckSettings} {predicates : Predicates} {a : Assertion} {w : World}
  {l : Locator} {n : Node} {count : Option UInt64} {since : Nat}

theorem passesAtDeadline (positive : 0 < settings.interval) (literal : a.resolve [] = .ok a)
    (presence : ∀ comparison, a.demand ≠ .compare comparison) {due : Nat}
    (met : ∀ time, a.demand.MetOn predicates (w.pass time) ↔ due ≤ since + time) :
    a.PassesOn settings predicates w ↔ due ≤ since + (a.poller settings).timeout := by
  have concludes : Concludes (Verdict predicates a (a.poller settings).timeout)
      (a.verify settings predicates) w := verifyConcludes literal positive w
  obtain ⟨elapsed, outcome, ended, verdict⟩ := concludes
  have inTime := verdict.inTime
  rw [Assertion.PassesOn, answerOfResult ended]
  rcases verdict.truthful presence with ⟨passed, held⟩ | ⟨failed, last, fails⟩
  · rw [met] at held
    exact iff_of_true passed (Nat.le_trans held (Nat.add_le_add_left inTime _))
  · rw [met, last] at fails
    exact iff_of_false failed fails

theorem appearancePasses (positive : 0 < settings.interval)
    (demand : a.demand = .present ⟨.value l, count⟩) (one : ∀ asked ∈ count, asked = 1)
    (only : w.OnlyMatch l n) (shown : n.hidden = false)
    (loaded : w.now = w.session.loadedAt + since) {appears : Nat}
    (appearance : n.appearAfter = some appears) (stays : n.removeAfter = none) :
    a.PassesOn settings predicates w ↔ appears ≤ since + (a.poller settings).timeout := by
  have literal : a.resolve [] = .ok a := by
    cases a
    cases demand
    rfl
  have presence : ∀ comparison, a.demand ≠ .compare comparison := by
    intro _ other
    cases demand.symm.trans other
  refine passesAtDeadline positive literal presence fun time => ?_
  have located : (w.pass time).matching l = if appears ≤ since + time then [n] else [] := by
    rw [only.matching loaded, Node.isPresent, appearance, stays]
    simp
  rw [demand]
  by_cases here : appears ≤ since + time
  · rw [if_pos here] at located
    refine iff_of_true ⟨l, n, [], rfl, located, fun asked given => ?_, shown⟩ here
    rw [one asked given, located]
    rfl
  · rw [if_neg here] at located
    refine iff_of_false ?_ here
    rintro ⟨_, first, rest, ⟨⟩, found, -, -⟩
    cases located.symm.trans found

theorem removalPasses (positive : 0 < settings.interval)
    (demand : a.demand = .absent ⟨.value l, count⟩) (only : w.OnlyMatch l n)
    (shown : n.hidden = false) (loaded : w.now = w.session.loadedAt + since)
    (present : ∀ time ∈ n.appearAfter, time = 0) {removed : Nat}
    (removal : n.removeAfter = some removed) :
    a.PassesOn settings predicates w ↔ removed ≤ since + (a.poller settings).timeout := by
  have literal : a.resolve [] = .ok a := by
    cases a
    cases demand
    rfl
  have presence : ∀ comparison, a.demand ≠ .compare comparison := by
    intro _ other
    cases demand.symm.trans other
  refine passesAtDeadline positive literal presence fun time => ?_
  have located : (w.pass time).matching l = if since + time < removed then [n] else [] := by
    have appeared : n.appearAfter.all (fun start => start ≤ since + time) = true := by
      cases start : n.appearAfter with
      | none => rfl
      | some start' => simp [present start' start]
    rw [only.matching loaded, Node.isPresent, removal, appeared]
    simp
  rw [demand]
  by_cases gone : removed ≤ since + time
  · rw [if_neg (Nat.not_lt.mpr gone)] at located
    refine iff_of_true ⟨l, rfl, fun other there => ?_⟩ gone
    rw [located] at there
    cases there
  · rw [if_pos (Nat.not_le.mp gone)] at located
    refine iff_of_false ?_ gone
    rintro ⟨_, ⟨⟩, hidden⟩
    cases shown.symm.trans (hidden n (located ▸ List.mem_cons_self))

end Checks

/-- What has become true by the deadline and stays true is never missed, whatever the interval. -/
theorem neverMissed (p : Poller) (positive : 0 < p.interval) :
    (∀ (σ α ω : Type) [Clock σ] [ExactClock σ] (look : Nat → Attempt α ω)
        (attempt : Check σ (Attempt α ω)) (s : σ), Poller.Instant (Clock.now s) look attempt →
      ∃ outcome ended final, p.run attempt s = .ok outcome final ∧
        Clock.now final = Clock.now s + ended ∧
        (outcome.isReady = true ↔
          (∃ k, k * p.interval < p.timeout ∧ (look (k * p.interval)).isDone = true) ∨
            (look p.timeout).isDone = true) ∧
        (Poller.Lasting look →
          (outcome.isReady = true ↔ (look p.timeout).isDone = true) ∧
          ∀ became ≤ p.timeout, (look became).isDone = true →
            (∀ earlier < became, (look earlier).isDone = false) →
            became ≤ ended ∧ ended < became + p.interval ∧ ended ≤ p.timeout)) ∧
    (∀ (settings : CheckSettings) (predicates : Predicates) (a : Assertion) (w : World)
        (l : Locator) (count : Option UInt64) (n : Node) (since : Nat),
      a.poller settings = p → w.OnlyMatch l n → n.hidden = false →
      w.now = w.session.loadedAt + since →
      (∀ appears, a.demand = .present ⟨.value l, count⟩ → (∀ asked ∈ count, asked = 1) →
        n.appearAfter = some appears → n.removeAfter = none →
        (a.PassesOn settings predicates w ↔ appears ≤ since + p.timeout)) ∧
      (∀ removed, a.demand = .absent ⟨.value l, count⟩ → (∀ time ∈ n.appearAfter, time = 0) →
        n.removeAfter = some removed →
        (a.PassesOn settings predicates w ↔ removed ≤ since + p.timeout))) := by
  constructor
  · intro σ α ω _ _ look attempt s instant
    obtain ⟨outcome, ended, final, ran, now, firstDone⟩ := Poller.runSample positive instant
    refine ⟨outcome, ended, final, ran, now, ?samples, fun lasting => ⟨?last, ?soon⟩⟩
    case samples =>
      rw [firstDone.readyIff]
      constructor
      · rintro ⟨time, ⟨k, rfl, early⟩ | rfl, done⟩
        · exact .inl ⟨k, early, done⟩
        · exact .inr done
      · rintro (⟨k, early, done⟩ | done)
        · exact ⟨_, .inl ⟨k, rfl, early⟩, done⟩
        · exact ⟨_, .inr rfl, done⟩
    case last => exact firstDone.lastIff lasting
    case soon =>
      intro became inTime done first
      exact firstDone.prompt positive lasting inTime done first
  · rintro settings predicates a w l count n since rfl only shown loaded
    refine ⟨fun appears demand one appearance stays => ?_, fun removed demand present removal => ?_⟩
    · exact appearancePasses positive demand one only shown loaded appearance stays
    · exact removalPasses positive demand only shown loaded present removal

def dueAt (due time : Nat) : Attempt Unit Nat := if due ≤ time then .done () else .again time

def lookingAgain : Check World (Attempt Unit Nat) := fun w => .ok (dueAt 23 (w.now - 7)) w

def comingAndGoing : World :=
  { session := { Browser.Session.start [] with
      url := "http://a/", html := "<p><p>", nodes := [paragraph "late" (some 30) none,
        paragraph "leaving" none (some 60)] }
    now := 7 }
where
  paragraph (id : String) (appearAfter removeAfter : Option Nat) : Node :=
    { tag := "p", text := id, attrs := [("id", id)], selected := false, hidden := false,
      parent := none, frame := none, appearAfter, removeAfter, onClick := [] }

def byId (id : String) : Locator := { strategy := .id, selector := id }

def hurried : CheckSettings := { CheckSettings.default with timeout := 25, interval := 10 }

theorem neverMissedBetweenSamples :
    0 < (Poller.mk 25 10).interval ∧
    Poller.Instant (Clock.now comingAndGoing) (dueAt 23) lookingAgain ∧
    Poller.Lasting (dueAt 23) ∧
    (∃ outcome ended final, (Poller.mk 25 10).run lookingAgain comingAndGoing = .ok outcome final ∧
      Clock.now final = 7 + ended ∧ outcome.isReady = true ∧ 23 ≤ ended ∧ ended ≤ 25) ∧
    (Assertion.requiring (byId "late") none).PassesOn hurried [] comingAndGoing ∧
    ¬ (Assertion.excluding (byId "leaving") none).PassesOn hurried [] comingAndGoing := by
  have instant : Poller.Instant (Clock.now comingAndGoing) (dueAt 23) lookingAgain :=
    fun w _ => ⟨w, rfl, rfl⟩
  have doneIff (time : Nat) : (dueAt 23 time).isDone = true ↔ 23 ≤ time := by
    unfold dueAt
    split <;> simp_all [Attempt.isDone]
  have lasting : Poller.Lasting (dueAt 23) := by
    intro time later after done
    rw [doneIff] at done ⊢
    exact Nat.le_trans done after
  obtain ⟨polling, pages⟩ := neverMissed (Poller.mk 25 10) (by decide)
  obtain ⟨outcome, ended, final, ran, now, -, kept⟩ :=
    polling World Unit Nat (dueAt 23) lookingAgain comingAndGoing instant
  obtain ⟨met, prompt⟩ := kept lasting
  obtain ⟨after, -, inTime⟩ := prompt 23 (by decide) rfl (by decide)
  have late := pages hurried [] (Assertion.requiring (byId "late") none) comingAndGoing
    (byId "late") none (comingAndGoing.paragraph "late" (some 30) none) 7 rfl rfl rfl rfl
  have leaving := pages hurried [] (Assertion.excluding (byId "leaving") none) comingAndGoing
    (byId "leaving") none (comingAndGoing.paragraph "leaving" none (some 60)) 7 rfl rfl rfl rfl
  refine ⟨by decide, instant, lasting, ⟨outcome, ended, final, ran, now, met.mpr rfl, after, inTime⟩,
    ?_, ?_⟩
  · exact (late.1 30 rfl nofun rfl rfl).mpr (by decide)
  · exact mt (leaving.2 60 rfl nofun rfl).mp (by decide)

end PageCheck
