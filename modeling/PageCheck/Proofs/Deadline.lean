import Mathlib.Algebra.Order.Floor.Div
import PageCheck.Poll.Script
import PageCheck.Proofs.Polling

/-!
How polling keeps its deadline, whatever the attempts cost. A diary notes every attempt with its
start. The delays are full, but for the last one, which ends at the deadline: this bounds the number
of attempts, and no attempt starts after the deadline.
-/
namespace PageCheck

variable {α ω : Type}

structure Made (α ω : Type) where
  start : Nat
  attempt : TimedAttempt α ω

def Made.finish (m : Made α ω) : Nat := m.start + m.attempt.cost

structure Diary (α ω : Type) where
  now : Nat
  made : List (Made α ω)

namespace Diary

instance : Clock (Diary α ω) where
  now d := d.now
  sleep time d := { d with now := d.now + time }
  emit _ d := d

def attempt (plan : Nat → TimedAttempt α ω) : Check (Diary α ω) (Attempt α ω) := fun d =>
  let next : Made α ω := { start := d.now, attempt := plan d.made.length }
  resultIn next.attempt.outcome { now := next.finish, made := d.made ++ [next] }

def after (plan : Nat → TimedAttempt α ω) (d : Diary α ω) : Diary α ω where
  now := d.now + (plan d.made.length).cost
  made := d.made ++ [⟨d.now, plan d.made.length⟩]

def woken (delay : Nat) (d : Diary α ω) : Diary α ω := { d with now := d.now + delay }

end Diary

namespace Poller

/-- The attempts that polling makes from here on, what it comes to, and when it ends. `before`
attempts have been made. -/
inductive Course (p : Poller) (plan : Nat → TimedAttempt α ω) (deadline : Nat) :
    (before now : Nat) → List (Made α ω) → Except Failure (Polled α ω) → (ended : Nat) → Prop where
  | last {before now}
      (final : ∀ observed, (plan before).outcome = .ok (.again observed) →
        deadline ≤ now + (plan before).cost) :
    Course p plan deadline before now [⟨now, plan before⟩] ((plan before).outcome.map ending)
      (now + (plan before).cost)
  | again {before now observed later outcome ended}
      (undecided : (plan before).outcome = .ok (.again observed))
      (early : now + (plan before).cost < deadline)
      (rest : Course p plan deadline (before + 1)
        (now + (plan before).cost + min p.interval (deadline - (now + (plan before).cost)))
        later outcome ended) :
    Course p plan deadline before now (⟨now, plan before⟩ :: later) outcome ended

section Loop

variable {p : Poller} {plan : Nat → TimedAttempt α ω}

theorem firstOfPlan {next : Attempt α ω → Check (Diary α ω) (Polled α ω)} (d : Diary α ω) :
    (Diary.attempt plan >>= next) d =
      match (plan d.made.length).outcome with
      | .error failure => resultIn (.error failure) (d.after plan)
      | .ok found => next found (d.after plan) := by
  have made : Diary.attempt plan d = resultIn (plan d.made.length).outcome (d.after plan) := rfl
  show EStateM.bind (Diary.attempt plan) next d = _
  unfold EStateM.bind
  rw [made]
  cases (plan d.made.length).outcome <;> rfl

theorem lastAttempt {deadline limit count : Nat} {d : Diary α ω}
    (final : ∀ observed, (plan d.made.length).outcome = .ok (.again observed) →
      deadline ≤ d.now + (plan d.made.length).cost) :
    p.attempts deadline (Diary.attempt plan) limit count d =
      resultIn ((plan d.made.length).outcome.map ending) (d.after plan) := by
  cases limit with
  | zero =>
    rw [attempts, firstOfPlan]
    rcases (plan d.made.length).outcome with failure | ⟨value | observed⟩ <;> rfl
  | succ limit =>
    rw [attempts, firstOfPlan]
    rcases found : (plan d.made.length).outcome with failure | ⟨value | observed⟩
    · rfl
    · rfl
    · have late : deadline ≤ (d.after plan).now := final observed found
      show (if deadline ≤ (d.after plan).now then expire (count + 1) observed else _) _ = _
      rw [if_pos late]
      rfl

theorem nextAttempt {deadline limit count : Nat} {observed : ω} {d : Diary α ω}
    (undecided : (plan d.made.length).outcome = .ok (.again observed))
    (early : d.now + (plan d.made.length).cost < deadline) :
    p.attempts deadline (Diary.attempt plan) (limit + 1) count d =
      p.attempts deadline (Diary.attempt plan) limit (count + 1)
        ((d.after plan).woken (min p.interval (deadline - (d.after plan).now))) := by
  rw [attempts, firstOfPlan, undecided]
  have awake : ¬ deadline ≤ (d.after plan).now := Nat.not_le.mpr early
  show (if deadline ≤ (d.after plan).now then _ else _ : Check (Diary α ω) (Polled α ω)) _ = _
  rw [if_neg awake]
  rfl

theorem attemptsCourse (positive : 0 < p.interval) {deadline limit : Nat} (count : Nat)
    (d : Diary α ω) (enough : deadline - d.now ≤ limit) :
    ∃ later outcome ended, Course p plan deadline d.made.length d.now later outcome ended ∧
      p.attempts deadline (Diary.attempt plan) limit count d =
        resultIn outcome ⟨ended, d.made ++ later⟩ := by
  -- a delay takes time, so that the limit on attempts is never what ends polling
  induction limit generalizing count d with
  | zero =>
    have late : deadline ≤ d.now + (plan d.made.length).cost := by omega
    exact ⟨_, _, _, .last fun _ _ => late, lastAttempt fun _ _ => late⟩
  | succ limit ih =>
    by_cases final : ∀ observed, (plan d.made.length).outcome = .ok (.again observed) →
        deadline ≤ d.now + (plan d.made.length).cost
    · exact ⟨_, _, _, .last final, lastAttempt final⟩
    · push Not at final
      obtain ⟨observed, undecided, early⟩ := final
      let delay := min p.interval (deadline - (d.after plan).now)
      have less : deadline - ((d.after plan).woken delay).now ≤ limit := by
        simp only [Diary.woken, Diary.after, delay]
        omega
      obtain ⟨later, outcome, ended, course, ran⟩ := ih (count + 1) _ less
      have counted : ((d.after plan).woken delay).made.length = d.made.length + 1 :=
        List.length_append
      rw [counted] at course
      refine ⟨_, outcome, ended, .again undecided early course, ?_⟩
      rw [nextAttempt undecided early, ran]
      simp [Diary.woken, Diary.after]

theorem startedCourse (plan : Nat → TimedAttempt α ω) (positive : 0 < p.interval) {limit : Nat}
    (enough : p.timeout ≤ limit) (begun : Nat) :
    ∃ made outcome ended, Course p plan (begun + p.timeout) 0 begun made outcome ended ∧
      (do let start ← Check.now; p.attempts (start + p.timeout) (Diary.attempt plan) limit 0)
        ⟨begun, []⟩ = resultIn outcome ⟨ended, made⟩ :=
  attemptsCourse positive 0 ⟨begun, []⟩ (by simpa using enough)

end Loop

namespace Course

variable {p : Poller} {plan : Nat → TimedAttempt α ω} {deadline before now ended : Nat}
  {made : List (Made α ω)} {outcome : Except Failure (Polled α ω)}

theorem nonempty (course : Course p plan deadline before now made outcome ended) :
    0 < made.length := by
  cases course <;> simp

theorem planned (course : Course p plan deadline before now made outcome ended) (k : Nat)
    (m : Made α ω) (there : made[k]? = some m) : m.attempt = plan (before + k) := by
  induction course generalizing k with
  | last => cases k <;> simp at there; rw [← there]; rfl
  | @again before now _ _ _ _ _ _ _ ih =>
    cases k with
    | zero => simp at there; rw [← there]; rfl
    | succ k =>
      have found := ih k (by simpa using there)
      rw [found]
      congr 1
      omega

theorem inTime (course : Course p plan deadline before now made outcome ended)
    (started : now ≤ deadline) : ∀ m ∈ made, m.start ≤ deadline := by
  induction course with
  | last => simpa using started
  | again _ _ _ ih =>
    intro m member
    rcases List.mem_cons.mp member with rfl | later
    · exact started
    · exact ih (by omega) m later

theorem undecided (course : Course p plan deadline before now made outcome ended) :
    ∀ m ∈ made.dropLast, ∃ observed, m.attempt.outcome = .ok (.again observed) := by
  induction course with
  | last => simp
  | @again before now observed later _ _ undecided _ rest ih =>
    intro m member
    rw [List.dropLast_cons_of_ne_nil (List.length_pos_iff.mp rest.nonempty)] at member
    rcases List.mem_cons.mp member with rfl | inside
    · exact ⟨observed, undecided⟩
    · exact ih m inside

theorem decided (course : Course p plan deadline before now made outcome ended) :
    ∃ last ∈ made.getLast?, outcome = last.attempt.outcome.map ending ∧ ended = last.finish ∧
      ∀ observed, outcome = .ok (.timedOut observed) → deadline ≤ ended := by
  induction course with
  | @last before now final =>
    refine ⟨_, rfl, rfl, rfl, fun observed timedOut => ?_⟩
    rcases found : (plan before).outcome with failure | ⟨value | seen⟩
    · rw [found] at timedOut; cases timedOut
    · rw [found] at timedOut; cases timedOut
    · exact final seen found
  | @again _ _ _ later _ _ _ _ rest ih =>
    obtain ⟨last, there, decides⟩ := ih
    refine ⟨last, ?_, decides⟩
    rw [List.getLast?_cons, Option.mem_def.mp there]
    rfl

theorem few (course : Course p plan deadline before now made outcome ended) (delays : Nat)
    (covered : deadline - now ≤ p.interval * delays) : made.length ≤ delays + 1 := by
  induction course generalizing delays with
  | last => simp
  | again _ early _ ih =>
    cases delays with
    | zero => omega
    | succ delays =>
      rw [Nat.mul_succ] at covered
      have fewer := ih delays (by omega)
      simp only [List.length_cons]
      omega

theorem enough (course : Course p plan deadline before now made outcome ended)
    (idle : ∀ m ∈ made, m.attempt.cost = 0 ∧ ∃ observed, m.attempt.outcome = .ok (.again observed)) :
    deadline - now ≤ p.interval * (made.length - 1) := by
  induction course with
  | @last before now final =>
    have free : (plan before).cost = 0 := (idle _ List.mem_cons_self).1
    obtain ⟨observed, undecided⟩ := (idle _ List.mem_cons_self).2
    have late := final observed undecided
    omega
  | @again before now _ later _ _ _ _ rest ih =>
    have free : (plan before).cost = 0 := (idle _ List.mem_cons_self).1
    have covered := ih fun m member => idle m (List.mem_cons_of_mem _ member)
    obtain ⟨others, counted⟩ := Nat.exists_eq_succ_of_ne_zero (Nat.ne_of_gt rest.nonempty)
    rw [counted, Nat.succ_sub_one] at covered
    rw [List.length_cons, counted, Nat.add_sub_cancel, Nat.mul_succ]
    omega

end Course

structure Timely (p : Poller) (plan : Nat → TimedAttempt α ω) (begun : Nat)
    (outcome : Except Failure (Polled α ω)) (final : Diary α ω) : Prop where
  attempted : 1 ≤ final.made.length
  planned : ∀ k m, final.made[k]? = some m → m.attempt = plan k
  few : final.made.length ≤ p.timeout ⌈/⌉ p.interval + 1
  all : (∀ m ∈ final.made, m.attempt.cost = 0 ∧
      ∃ observed, m.attempt.outcome = .ok (.again observed)) →
    final.made.length = p.timeout ⌈/⌉ p.interval + 1
  inTime : ∀ m ∈ final.made, m.start ≤ begun + p.timeout
  undecided : ∀ m ∈ final.made.dropLast, ∃ observed, m.attempt.outcome = .ok (.again observed)
  decided : ∃ last ∈ final.made.getLast?, outcome = last.attempt.outcome.map ending ∧
    final.now = last.finish ∧ ∀ observed, outcome = .ok (.timedOut observed) →
      begun + p.timeout ≤ final.now ∧ final.now ≤ begun + p.timeout + last.attempt.cost

theorem meetsDeadline (p : Poller) (positive : 0 < p.interval) (plan : Nat → TimedAttempt α ω)
    (begun : Nat) :
    ∃ outcome final, p.run (Diary.attempt plan) ⟨begun, []⟩ = resultIn outcome final ∧
      p.Timely plan begun outcome final := by
  have limited : p.timeout ≤ p.attemptLimit := Nat.le_add_right _ _
  obtain ⟨made, outcome, ended, course, ran⟩ := startedCourse plan positive limited begun
  refine ⟨outcome, ⟨ended, made⟩, ran, ?_⟩
  have inTime := course.inTime (Nat.le_add_right _ _)
  have few : made.length ≤ p.timeout ⌈/⌉ p.interval + 1 := by
    refine course.few _ ?_
    rw [Nat.add_sub_cancel_left]
    exact le_smul_ceilDiv positive
  refine ⟨course.nonempty, fun k m there => ?_, few, fun idle => ?_, inTime, course.undecided, ?_⟩
  · rw [course.planned k m there]
    exact congrArg plan (Nat.zero_add k)
  · have covered := course.enough idle
    rw [Nat.add_sub_cancel_left] at covered
    have fewest := (ceilDiv_le_iff_le_mul positive).mpr covered
    have some := course.nonempty
    exact Nat.le_antisymm few (Nat.add_le_of_le_sub some fewest)
  · obtain ⟨last, there, same, ends, late⟩ := course.decided
    refine ⟨last, there, same, ends, fun observed timedOut => ⟨late observed timedOut, ?_⟩⟩
    have started := inTime last (List.mem_of_getLast? there)
    show ended ≤ _
    rw [ends, Made.finish]
    omega

def restlessPlan (k : Nat) : TimedAttempt Unit Nat := { cost := 0, outcome := .ok (.again k) }

theorem meetsDeadlineInFour :
    0 < (Poller.mk 25 10).interval ∧
    ∃ outcome final,
      (Poller.mk 25 10).run (Diary.attempt restlessPlan) ⟨0, []⟩ = resultIn outcome final ∧
      (Poller.mk 25 10).Timely restlessPlan 0 outcome final ∧ final.made.length = 4 := by
  obtain ⟨outcome, final, ran, timely⟩ := meetsDeadline ⟨25, 10⟩ (by decide) restlessPlan 0
  refine ⟨by decide, outcome, final, ran, timely, ?_⟩
  -- at 0, 10, 20 and 25
  have all := timely.all fun m member => by
    obtain ⟨k, there⟩ := List.mem_iff_getElem?.mp member
    rw [timely.planned k m there]
    exact ⟨rfl, k, rfl⟩
  exact all.trans (by decide)

end Poller

end PageCheck
