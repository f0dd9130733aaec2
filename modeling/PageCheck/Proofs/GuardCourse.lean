import Mathlib.Data.List.Forall2
import PageCheck.Proofs.Answers

/-!
The course of a guard: which conditions are asked, in which order, and which one decides. The two
loops of the evaluation are one: items are asked from left to right up to the first answer other
than the one that lets the loop go on.
-/
namespace PageCheck.Guard

open Browser (World)

abbrev Asking (α : Type) := World → α → List Condition → Except Failure Bool → World → Prop

inductive Along {α : Type} (ask : Asking α) (going : Bool) :
    World → List α → List Condition → World → Prop where
  | none {w} : Along ask going w [] [] w
  | next {w u v item rest asked more} (first : ask w item asked (.ok going) u)
    (others : Along ask going u rest more v) :
    Along ask going w (item :: rest) (asked ++ more) v

inductive Course {α : Type} (ask : Asking α) (going : Bool) :
    World → List α → List Condition → Except Failure Bool → World → Prop where
  | through {w items asked v} (along : Along ask going w items asked v) :
    Course ask going w items asked (.ok going) v
  | ends {w u before item after asked more outcome v} (along : Along ask going w before asked u)
    (last : ask u item more outcome v) (decides : outcome ≠ .ok going) :
    Course ask going w (before ++ item :: after) (asked ++ more) outcome v

structure Loops {α : Type} (one : α → Check World Bool) (going : Bool)
    (all : List α → Check World Bool) : Prop where
  none : ∀ w, all [] w = .ok going w
  next : ∀ {item w u}, one item w = .ok going u → ∀ rest, all (item :: rest) w = all rest u
  last : ∀ {item w outcome v}, one item w = resultIn outcome v → outcome ≠ .ok going →
    ∀ rest, all (item :: rest) w = resultIn outcome v

def Describes {α : Type} (ask : Asking α) (one : α → Check World Bool) : Prop :=
  ∀ {item w outcome v}, one item w = resultIn outcome v ↔ ∃ asked, ask w item asked outcome v

section Loops

variable {α : Type} {ask : Asking α} {going : Bool} {one : α → Check World Bool}
  {all : List α → Check World Bool}

theorem Along.skips (loops : Loops one going all) (describes : Describes ask one) {w v : World}
    {items : List α} {asked : List Condition} (along : Along ask going w items asked v)
    (rest : List α) : all (items ++ rest) w = all rest v := by
  induction along with
  | none => rfl
  | next first _ ih => exact (loops.next (describes.mpr ⟨_, first⟩) _).trans ih

theorem Course.evaluates (loops : Loops one going all) (describes : Describes ask one)
    {w v : World} {items : List α} {asked : List Condition} {outcome : Except Failure Bool}
    (course : Course ask going w items asked outcome v) : all items w = resultIn outcome v := by
  cases course with
  | through along =>
    have skipped := along.skips loops describes []
    rw [List.append_nil] at skipped
    exact skipped.trans (loops.none v)
  | ends along last decides =>
    exact (along.skips loops describes _).trans (loops.last (describes.mpr ⟨_, last⟩) decides _)

theorem Course.after {w u v : World} {item : α} {rest : List α} {asked more : List Condition}
    {outcome : Except Failure Bool} (first : ask w item asked (.ok going) u)
    (course : Course ask going u rest more outcome v) :
    Course ask going w (item :: rest) (asked ++ more) outcome v := by
  cases course with
  | through along => exact .through (.next first along)
  | ends along last decides =>
    rw [← List.append_assoc]
    exact .ends (.next first along) last decides

theorem Loops.course (loops : Loops one going all) (describes : Describes ask one) {w v : World}
    {items : List α} {outcome : Except Failure Bool} (ended : all items w = resultIn outcome v) :
    ∃ asked, Course ask going w items asked outcome v := by
  induction items generalizing w with
  | nil =>
    obtain ⟨rfl, rfl⟩ := resultInInj (ended.symm.trans (loops.none w) : _ = resultIn (.ok going) w)
    exact ⟨[], .through .none⟩
  | cons item rest ih =>
    obtain ⟨answer, u, answered⟩ := resultInOf (one item) w
    obtain ⟨asked, first⟩ := describes.mp answered
    by_cases goesOn : answer = .ok going
    · subst goesOn
      obtain ⟨more, course⟩ := ih ((loops.next answered rest).symm.trans ended)
      exact ⟨asked ++ more, course.after first⟩
    · obtain ⟨rfl, rfl⟩ := resultInInj (ended.symm.trans (loops.last answered goesOn rest))
      exact ⟨asked, .ends .none first goesOn⟩

theorem Loops.describes (loops : Loops one going all) (describes : Describes ask one) :
    Describes (Course ask going) all :=
  ⟨loops.course describes, fun ⟨_, course⟩ => course.evaluates loops describes⟩

end Loops

section Courses

variable (settings : CheckSettings) (predicates : Predicates)

theorem anyOfLoops :
    Loops (condition settings predicates) false (anyOf settings predicates (σ := World)) where
  none _ := rfl
  next answered rest := bindOfOk answered _
  last {item w outcome v} answered decides rest := by
    match outcome with
    | .error failure => exact bindOfError answered _
    | .ok true => exact bindOfOk answered _
    | .ok false => exact (decides rfl).elim

theorem allOfAnywhere (g : Guard) (w : World) (index : Nat) :
    allOf settings predicates index g w = g.evaluate settings predicates w := by
  show allOf settings predicates index g w = allOf settings predicates 0 g w
  generalize 0 = other
  induction g generalizing w index other with
  | nil => rfl
  | cons group rest ih =>
    cases answered : anyOf settings predicates group w with
    | error failure u => exact (bindOfError answered _).trans (bindOfError answered _).symm
    | ok holds u =>
      have first (index : Nat) : allOf settings predicates index (group :: rest) w =
          (if holds then allOf settings predicates (index + 1) rest
          else do
            Check.emit (.groupFalse index)
            return false) u := bindOfOk answered _
      rw [first, first]
      cases holds with
      | false => rfl
      | true => exact ih u (index + 1) (other + 1)

theorem evaluateLoops :
    Loops (anyOf settings predicates) true (evaluate settings predicates (σ := World)) where
  none _ := rfl
  next answered rest := (bindOfOk answered _).trans (allOfAnywhere settings predicates rest _ 1)
  last {item w outcome v} answered decides rest := by
    match outcome with
    | .error failure => exact bindOfError answered _
    | .ok false => exact bindOfOk answered _
    | .ok true => exact (decides rfl).elim

def AsksOne : Asking Condition := fun w c asked outcome v =>
  asked = [c] ∧ condition settings predicates c w = resultIn outcome v

def AsksGroup : Asking (List Condition) := Course (AsksOne settings predicates) false

def Asks : Asking Guard := Course (AsksGroup settings predicates) true

theorem conditionDescribed :
    Describes (AsksOne settings predicates) (condition settings predicates) :=
  ⟨fun answered => ⟨_, rfl, answered⟩, fun ⟨_, _, answered⟩ => answered⟩

theorem evaluateDescribed : Describes (Asks settings predicates) (evaluate settings predicates) :=
  (evaluateLoops settings predicates).describes
    ((anyOfLoops settings predicates).describes (conditionDescribed settings predicates))

end Courses

def Steady (w : World) (x : Check World Bool) (answer : Bool) : Prop :=
  ∀ time, ∃ later, x (w.pass time) = .ok answer (w.pass later)

theorem Steady.answer {w : World} {x : Check World Bool} {answer : Bool}
    (steady : Steady w x answer) : answerOf x w = .ok answer := by
  obtain ⟨later, answered⟩ := steady 0
  have answered : x w = resultIn (.ok answer) (w.pass later) := answered
  exact answerOfResult answered

theorem Steady.unique {w : World} {x : Check World Bool} {answer other : Bool}
    (steady : Steady w x answer) (steady' : Steady w x other) : answer = other :=
  Except.ok.inj (steady.answer.symm.trans steady'.answer)

theorem Loops.steady {α : Type} {one : α → Check World Bool} {going : Bool}
    {all : List α → Check World Bool} (loops : Loops one going all) {w : World} {items : List α}
    (each : ∀ item ∈ items, ∃ answer, Steady w (one item) answer) :
    ∃ answer, Steady w (all items) answer ∧
      (answer = going ↔ ∀ item ∈ items, Steady w (one item) going) := by
  induction items with
  | nil => exact ⟨going, fun time => ⟨time, loops.none _⟩, iff_of_true rfl nofun⟩
  | cons item rest ih =>
    obtain ⟨⟨answer, first⟩, others⟩ := List.forall_mem_cons.mp each
    rw [List.forall_mem_cons]
    by_cases goesOn : answer = going
    · subst goesOn
      obtain ⟨decision, steady, same⟩ := ih others
      refine ⟨decision, fun time => ?_, same.trans (and_iff_right first).symm⟩
      obtain ⟨later, answered⟩ := first time
      obtain ⟨latest, ended⟩ := steady later
      exact ⟨latest, (loops.next answered rest).trans ended⟩
    · refine ⟨answer, fun time => ?_, iff_of_false goesOn fun ⟨other, _⟩ => ?_⟩
      · obtain ⟨later, answered⟩ := first time
        have answered : one item (w.pass time) = resultIn (.ok answer) (w.pass later) := answered
        exact ⟨later, loops.last answered (goesOn ∘ Except.ok.inj) rest⟩
      · exact goesOn (first.unique other)

section Still

variable {settings : CheckSettings} {predicates : Predicates} {w : World}

theorem conditionMistake {c : Condition} {failure : Failure}
    (failed : answerOf (condition settings predicates c) w = .error failure) :
    failure.isConfiguration = true := by
  obtain ⟨elapsed, outcome, ended, -, told⟩ := conditionTells settings predicates c w
  rw [answerOfResult ended] at failed
  exact lenientError (told.symm.trans failed)

theorem conditionSteady (still : w.Still) {c : Condition} {answer : Bool} :
    answerOf (condition settings predicates c) w = .ok answer ↔
      Steady w (condition settings predicates c) answer := by
  refine ⟨fun answered time => ?_, Steady.answer⟩
  obtain ⟨elapsed, outcome, ended, -, told⟩ := conditionTells settings predicates c (w.pass time)
  have told : outcome = lenient (c.truth predicates ((w.pass time).pass elapsed)) := told
  rw [Poller.passTwice] at ended told
  rw [still.conditionTruth, ← conditionAnswer still settings, answered] at told
  subst told
  exact ⟨time + elapsed, ended⟩

theorem unmistakenSteady (still : w.Still) {c : Condition}
    (unmistaken : ∀ failure, failure.isConfiguration = true →
      answerOf (condition settings predicates c) w ≠ .error failure) :
    ∃ answer, Steady w (condition settings predicates c) answer := by
  cases answered : answerOf (condition settings predicates c) w with
  | ok answer => exact ⟨answer, (conditionSteady still).mp answered⟩
  | error failure => exact (unmistaken failure (conditionMistake answered) answered).elim

theorem evaluateMistake {g : Guard} {failure : Failure}
    (failed : answerOf (g.evaluate settings predicates) w = .error failure) :
    failure.isConfiguration = true := by
  obtain ⟨outcome, v, ended⟩ := resultInOf (g.evaluate settings predicates) w
  rw [answerOfResult ended] at failed
  subst failed
  obtain ⟨asked, course⟩ := (evaluateDescribed settings predicates).mp ended
  cases course with
  | ends _ last _ =>
    cases last with
    | ends _ last _ => exact conditionMistake (answerOfResult last.2)

theorem anyOfSteady {group : List Condition}
    (each : ∀ c ∈ group, ∃ answer, Steady w (condition settings predicates c) answer) :
    ∃ answer, Steady w (anyOf settings predicates group) answer ∧
      (answer = true ↔ ∃ c ∈ group, Steady w (condition settings predicates c) true) := by
  obtain ⟨answer, steady, none⟩ := (anyOfLoops settings predicates).steady each
  refine ⟨answer, steady, ?_⟩
  rw [← Bool.not_eq_false, none, not_forall₂]
  refine exists_congr fun c => ?_
  constructor
  · rintro ⟨member, holds⟩
    obtain ⟨decision, decided⟩ := each c member
    cases decision with
    | true => exact ⟨member, decided⟩
    | false => exact (holds decided).elim
  · rintro ⟨member, holds⟩
    exact ⟨member, fun refused => nomatch holds.unique refused⟩

theorem evaluateSteady {g : Guard} (each : ∀ group ∈ g, ∀ c ∈ group,
      ∃ answer, Steady w (condition settings predicates c) answer) :
    ∃ holds, Steady w (g.evaluate settings predicates) holds ∧
      (holds = true ↔
        ∀ group ∈ g, ∃ c ∈ group, Steady w (condition settings predicates c) true) := by
  have groups (group : List Condition) (member : group ∈ g) := anyOfSteady (each group member)
  obtain ⟨holds, steady, conjunction⟩ := (evaluateLoops settings predicates).steady
    fun group member => (groups group member).imp fun _ => And.left
  refine ⟨holds, steady, conjunction.trans (forall₂_congr fun group member => ?_)⟩
  obtain ⟨answer, answers, some⟩ := groups group member
  rw [← some]
  refine ⟨fun holds => answers.unique holds, fun holds => ?_⟩
  rwa [← holds]

end Still

def Rearranged (g other : Guard) : Prop :=
  ∃ middle, List.Perm g middle ∧ List.Forall₂ List.Perm middle other

theorem Rearranged.all {g other : Guard} (rearranged : Rearranged g other)
    {p : List Condition → Prop}
    (kept : ∀ {group group'}, List.Perm group group' → (p group ↔ p group')) :
    (∀ group ∈ g, p group) ↔ ∀ group ∈ other, p group := by
  obtain ⟨middle, groups, within⟩ := rearranged
  simp only [groups.mem_iff]
  clear groups
  induction within with
  | nil => exact Iff.rfl
  | cons same _ ih =>
    rw [List.forall_mem_cons, List.forall_mem_cons]
    exact and_congr (kept same) ih

/-- Conditions are asked from left to right, in each group up to the first that is true and in the
guard up to the first group without one. Only mistakes of the scenario are told as failures. If no
condition is mistaken on a page that stands still, the guard says that each group has a true one. -/
theorem conjunctionOfDisjunctions (settings : CheckSettings) (predicates : Predicates) (g : Guard)
    (w : World) :
    (∀ outcome v, g.evaluate settings predicates w = resultIn outcome v ↔
      ∃ asked, Asks settings predicates w g asked outcome v) ∧
    (∀ failure, answerOf (g.evaluate settings predicates) w = .error failure →
      failure.isConfiguration = true) ∧
    (w.Still →
      (∀ group ∈ g, ∀ c ∈ group, ∀ failure, failure.isConfiguration = true →
        answerOf (condition settings predicates c) w ≠ .error failure) →
      ∃ holds, answerOf (g.evaluate settings predicates) w = .ok holds ∧
        (holds = true ↔
          ∀ group ∈ g, ∃ c ∈ group, answerOf (condition settings predicates c) w = .ok true) ∧
        ∀ other, Rearranged g other →
          answerOf (Guard.evaluate settings predicates other) w = .ok holds) := by
  refine ⟨fun _ _ => evaluateDescribed settings predicates, fun _ => evaluateMistake, ?_⟩
  intro still unmistaken
  simp only [conditionSteady still]
  obtain ⟨holds, steady, conjunction⟩ := evaluateSteady fun group member c within =>
    unmistakenSteady still (unmistaken group member c within)
  refine ⟨holds, steady.answer, conjunction, fun other rearranged => ?_⟩
  have unmistaken' := (rearranged.all fun same => by simp only [same.mem_iff]).mp unmistaken
  obtain ⟨holds', steady', conjunction'⟩ := evaluateSteady fun group member c within =>
    unmistakenSteady still (unmistaken' group member c within)
  have reordered := rearranged.all
    (p := fun group => ∃ c ∈ group, Steady w (condition settings predicates c) true)
    fun same => by simp only [same.mem_iff]
  obtain rfl : holds = holds' :=
    Bool.eq_iff_iff.mpr ((conjunction.trans reordered).trans conjunction'.symm)
  exact steady'.answer

def lacksGreeting : Condition :=
  .assertion { demand := .absent { target := .value greeting, count := none }, timeout := some 20 }

def farewell : Guard :=
  [[.assertion (greets (.value greeting)), lacksGreeting], [.flag (.value true)]]

theorem conjunctionWhenGreetingIsGone :
    (greetingPage.pass 60).Still ∧
    (∀ group ∈ farewell, ∀ c ∈ group, ∀ failure, failure.isConfiguration = true →
      answerOf (condition .default [] c) (greetingPage.pass 60) ≠ .error failure) ∧
    Rearranged farewell (farewell.reverse.map List.reverse) ∧
    answerOf (farewell.evaluate .default []) (greetingPage.pass 60) = .ok true ∧
    answerOf (Guard.evaluate .default [] (farewell.reverse.map List.reverse))
      (greetingPage.pass 60) = .ok true := by
  have still : (greetingPage.pass 60).Still := by decide
  have greets : answerOf (condition .default [] (.assertion (greets (.value greeting))))
      (greetingPage.pass 60) = .ok false := rfl
  have lacks : answerOf (condition .default [] lacksGreeting) (greetingPage.pass 60) =
      .ok true := conditionAnswer still .default [] lacksGreeting
  have flag : answerOf (condition .default [] (.flag (.value true))) (greetingPage.pass 60) =
      .ok true := rfl
  have unmistaken : ∀ group ∈ farewell, ∀ c ∈ group, ∀ failure, failure.isConfiguration = true →
      answerOf (condition .default [] c) (greetingPage.pass 60) ≠ .error failure := by
    simp [farewell, greets, lacks, flag]
  have backwards : Rearranged farewell (farewell.reverse.map List.reverse) :=
    ⟨farewell.reverse, (List.reverse_perm _).symm,
      List.forall₂_map_right_iff.mpr (List.forall₂_same.mpr fun group _ =>
        (List.reverse_perm group).symm)⟩
  obtain ⟨-, -, evaluated⟩ := conjunctionOfDisjunctions .default [] farewell (greetingPage.pass 60)
  obtain ⟨holds, answered, conjunction, reordered⟩ := evaluated still unmistaken
  obtain rfl : holds = true := conjunction.mpr (by simp [farewell, lacks, flag])
  exact ⟨still, unmistaken, backwards, answered, reordered _ backwards⟩

end PageCheck.Guard
