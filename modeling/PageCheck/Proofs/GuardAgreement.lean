import PageCheck.Proofs.Answers

/-!
Checks and guards on pages that stand still. Asked as a check or in a guard, a demand has the same
verdict, whatever the timeout and the polling interval; only for absence the two are put in
different ways. Presence is decided by the first match and absence by all of them, so the two are
opposites unless the first match is hidden and a later one is displayed.
-/
namespace PageCheck

open Browser (World)

namespace Assertion

def PassesOn (settings : CheckSettings) (predicates : Predicates) (w : World) (a : Assertion) :
    Prop :=
  answerOf (a.verify settings predicates) w = .ok ()

def HoldsOn (settings : CheckSettings) (predicates : Predicates) (w : World) (a : Assertion) :
    Prop :=
  answerOf (a.holds settings predicates) w = .ok true

end Assertion

section Agreement

variable {w : World} {a : Assertion}

theorem passesOnIff (still : w.Still) (settings : CheckSettings) (predicates : Predicates)
    (a : Assertion) :
    a.PassesOn settings predicates w ↔ lenient (a.demand.truth predicates w) = .ok true := by
  rw [← verifyAnswer still settings predicates a]
  exact passesIff.symm

theorem holdsAnswer (still : w.Still) (settings : CheckSettings) (predicates : Predicates)
    (a : Assertion) :
    answerOf (a.holds settings predicates) w = lenient (a.demand.guardTruth predicates w) :=
  conditionAnswer still settings predicates (.assertion a)

theorem guardTruthSame (insists : ∀ presence, a.demand ≠ .absent presence)
    (predicates : Predicates) (w : World) :
    a.demand.guardTruth predicates w = a.demand.truth predicates w := by
  cases demand : a.demand with
  | absent presence => exact (insists presence demand).elim
  | present presence => rfl
  | compare comparison => rfl

theorem guardAgreesWithCheck (still : w.Still) (insists : ∀ presence, a.demand ≠ .absent presence)
    (settings : CheckSettings) (predicates : Predicates) :
    (a.HoldsOn settings predicates w ↔ a.PassesOn settings predicates w) ∧
    (∀ failure, answerOf (a.holds settings predicates) w = .error failure ↔
      answerOf (a.verify settings predicates) w = .error failure ∧
        failure.isConfiguration = true) ∧
    ∀ (other : CheckSettings) (timeout : Option Nat),
      (({ a with timeout } : Assertion).HoldsOn other predicates w ↔
        a.HoldsOn settings predicates w) ∧
      (({ a with timeout } : Assertion).PassesOn other predicates w ↔
        a.PassesOn settings predicates w) := by
  have asked := holdsAnswer still settings predicates a
  rw [guardTruthSame insists] at asked
  refine ⟨?same, fun failure => ?mistakes, fun other timeout => ⟨?guards, ?checks⟩⟩
  case same => rw [passesOnIff still, Assertion.HoldsOn, asked]
  case mistakes => rw [asked, ← verifyAnswer still settings predicates a, mistakenIff]
  case guards =>
    rw [Assertion.HoldsOn, Assertion.HoldsOn, holdsAnswer still, holdsAnswer still]
  case checks => rw [passesOnIff still, passesOnIff still]

end Agreement

def twoParagraphs (hidden : Bool) : World :=
  { session := { Browser.Session.start [] with
      url := "http://a/", html := "<p><p>", nodes := [paragraph "hello" hidden,
        paragraph "world" false] }
    now := 7 }
where
  paragraph (text : String) (hidden : Bool) : Browser.Node :=
    { tag := "p", text, attrs := [], selected := false, hidden, parent := none, frame := none,
      appearAfter := some 5, removeAfter := none, onClick := [] }

def paragraphs : Locator := { strategy := .tagName, selector := "p" }

def resembles (pattern : String) : Assertion :=
  { demand := .compare {
      target := .element (.value paragraphs), criterion := .likes (.value pattern),
      kind := none, count := some 2 }
    timeout := some 40 }

theorem mistakenOnTwoParagraphs :
    (twoParagraphs false).Still ∧ (∀ presence, (resembles "hello").demand ≠ .absent presence) ∧
    answerOf ((resembles "hello").verify .default []) (twoParagraphs false) =
      .error (.scenario (.manyValues ["hello", "world"])) ∧
    answerOf ((resembles "hello").holds .default []) (twoParagraphs false) =
      .error (.scenario (.manyValues ["hello", "world"])) := by
  have still : (twoParagraphs false).Still := by decide
  have insists : ∀ presence, (resembles "hello").demand ≠ .absent presence := nofun
  have checked : answerOf ((resembles "hello").verify .default []) (twoParagraphs false) =
      .error (.scenario (.manyValues ["hello", "world"])) := rfl
  obtain ⟨-, mistakes, -⟩ := guardAgreesWithCheck still insists .default []
  exact ⟨still, insists, checked, (mistakes _).mpr ⟨checked, rfl⟩⟩

namespace Assertion

def requiring (l : Locator) (timeout : Option Nat) : Assertion :=
  { demand := .present { target := .value l, count := none }, timeout }

def excluding (l : Locator) (timeout : Option Nat) : Assertion :=
  { demand := .absent { target := .value l, count := none }, timeout }

end Assertion

def Browser.World.ShowsFirst (w : World) (l : Locator) : Prop :=
  ∃ first rest, w.matching l = first :: rest ∧ first.hidden = false

def Browser.World.Shows (w : World) (l : Locator) : Prop :=
  ∃ n ∈ w.matching l, n.hidden = false

/-- The first match is hidden, and a later one is displayed. -/
def Browser.World.Overlooks (w : World) (l : Locator) : Prop :=
  ∃ first rest, w.matching l = first :: rest ∧ first.hidden = true ∧
    ∃ n ∈ rest, n.hidden = false

section Opposites

variable {w : World} {l : Locator}

theorem presenceIff : (w.presenceSeen l none).isDone = true ↔ w.ShowsFirst l := by
  cases seen : w.presenceSeen l none with
  | done found =>
    obtain ⟨first, rest, located, -, displayed⟩ := World.presenceDone seen
    exact iff_of_true rfl ⟨first, rest, located, displayed⟩
  | again matched =>
    refine iff_of_false nofun fun ⟨first, rest, located, displayed⟩ => ?_
    rcases World.presenceAgain seen with
      nowhere | ⟨asked, given, -⟩ | ⟨other, others, found, hidden⟩
    · cases nowhere.symm.trans located
    · cases given
    · cases found.symm.trans located
      cases hidden.symm.trans displayed

theorem absenceIff : (w.absenceSeen l).isDone = true ↔ ¬ w.Shows l := by
  cases seen : w.absenceSeen l with
  | done gone =>
    refine iff_of_true rfl fun ⟨n, member, displayed⟩ => ?_
    cases (World.absenceDone seen n member).symm.trans displayed
  | again visible => exact iff_of_false nofun (not_not.mpr (World.absenceAgain seen))

theorem overlooksIff : w.Overlooks l ↔ w.Shows l ∧ ¬ w.ShowsFirst l := by
  cases located : w.matching l with
  | nil => simp [World.Overlooks, World.Shows, located]
  | cons first rest =>
    cases hidden : first.hidden with
    | true => simp [World.Overlooks, World.Shows, World.ShowsFirst, located, hidden]
    | false => simp [World.Overlooks, World.Shows, World.ShowsFirst, located, hidden]

theorem showsByFirst (shown : w.ShowsFirst l) : w.Shows l := by
  obtain ⟨first, rest, located, displayed⟩ := shown
  exact ⟨first, located ▸ List.mem_cons_self, displayed⟩

variable {settings : CheckSettings} {predicates : Predicates}

theorem decidedTrue {value : Bool} : lenient (.ok value) = .ok true ↔ value = true :=
  ⟨Except.ok.inj, congrArg Except.ok⟩

theorem requiringPasses (still : w.Still) (timeout : Option Nat) :
    (Assertion.requiring l timeout).PassesOn settings predicates w ↔ w.ShowsFirst l := by
  have told : (Demand.present ⟨.value l, none⟩).truth predicates w = _ :=
    presentTruth predicates rfl w
  rw [passesOnIff still, Assertion.requiring, told, decidedTrue, presenceIff]

theorem excludingPasses (still : w.Still) (timeout : Option Nat) :
    (Assertion.excluding l timeout).PassesOn settings predicates w ↔ ¬ w.Shows l := by
  have told : (Demand.absent ⟨.value l, none⟩).truth predicates w = _ :=
    absentTruth predicates rfl w
  rw [passesOnIff still, Assertion.excluding, told, decidedTrue, absenceIff]

theorem excludingHolds (still : w.Still) (timeout : Option Nat) :
    (Assertion.excluding l timeout).HoldsOn settings predicates w ↔ ¬ w.ShowsFirst l := by
  have told : (Demand.present ⟨.value l, none⟩).truth predicates w = _ :=
    presentTruth predicates rfl w
  rw [Assertion.HoldsOn, holdsAnswer still, Assertion.excluding, Demand.guardTruth, told,
    Except.map, decidedTrue, Bool.not_eq_true', ← Bool.not_eq_true, presenceIff]

/-- On a page that stands still one of two opposite checks passes, and a guard says of absence what
the check says, unless a hidden match comes before a displayed one; then neither check passes. -/
theorem oppositesUnlessOverlooked (still : w.Still) (l : Locator) (settings : CheckSettings)
    (predicates : Predicates) (t u v : Option Nat) :
    (¬ w.Overlooks l →
      ((Assertion.requiring l t).PassesOn settings predicates w ↔
        ¬ (Assertion.excluding l u).PassesOn settings predicates w) ∧
      ((Assertion.excluding l v).HoldsOn settings predicates w ↔
        (Assertion.excluding l u).PassesOn settings predicates w)) ∧
    (w.Overlooks l →
      ¬ (Assertion.requiring l t).PassesOn settings predicates w ∧
      ¬ (Assertion.excluding l u).PassesOn settings predicates w ∧
      (Assertion.excluding l v).HoldsOn settings predicates w) := by
  rw [requiringPasses still, excludingPasses still, excludingHolds still, overlooksIff, not_not]
  refine ⟨fun noticed => ?same, fun ⟨shown, first⟩ => ⟨first, shown, first⟩⟩
  have same : w.ShowsFirst l ↔ w.Shows l :=
    ⟨showsByFirst, fun shown => not_not.mp fun first => noticed ⟨shown, first⟩⟩
  exact ⟨same, not_congr same⟩

end Opposites

theorem oppositesOnTwoParagraphs :
    (twoParagraphs false).Still ∧ ¬ (twoParagraphs false).Overlooks paragraphs ∧
    (Assertion.requiring paragraphs none).PassesOn .default [] (twoParagraphs false) ∧
    ¬ (Assertion.excluding paragraphs (some 20)).PassesOn .default [] (twoParagraphs false) := by
  have still : (twoParagraphs false).Still := by decide
  have noticed : ¬ (twoParagraphs false).Overlooks paragraphs := by
    rintro ⟨first, rest, located, hidden, -⟩
    cases located
    cases hidden
  have opposites := (oppositesUnlessOverlooked still paragraphs .default [] none (some 20) none).1
  have found : (Assertion.requiring paragraphs none).PassesOn .default [] (twoParagraphs false) :=
    rfl
  exact ⟨still, noticed, found, (opposites noticed).1.mp found⟩

theorem neitherWhenFirstHidden :
    (twoParagraphs true).Still ∧ 0 < CheckSettings.default.interval ∧
    ¬ (Assertion.requiring paragraphs none).PassesOn .default [] (twoParagraphs true) ∧
    ¬ (Assertion.excluding paragraphs none).PassesOn .default [] (twoParagraphs true) ∧
    (Assertion.excluding paragraphs none).HoldsOn .default [] (twoParagraphs true) := by
  have still : (twoParagraphs true).Still := by decide
  have shown : (twoParagraphs true).Shows paragraphs :=
    ⟨_, List.mem_cons_of_mem _ List.mem_cons_self, rfl⟩
  have first : ¬ (twoParagraphs true).ShowsFirst paragraphs := by
    rintro ⟨first, rest, located, displayed⟩
    cases located
    cases displayed
  refine ⟨still, by decide, ?_, ?_, ?_⟩
  · exact mt (requiringPasses still none).mp first
  · exact fun passes => (excludingPasses still none).mp passes shown
  · exact (excludingHolds still none).mpr first

end PageCheck
