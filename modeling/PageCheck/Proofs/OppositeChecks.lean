import PageCheck.Proofs.GuardAgreement

/-!
Checks that ask for the opposite of each other, on pages that stand still. A comparison is decided
by the values that are read, after the number of elements: where the number is wrong all checks
fail, also the negative ones. Otherwise a negative check is the negation of its positive one, but
for `checked` and `selected`, whose opposites ask for none of the values.
-/
namespace PageCheck

open Browser (World)

structure Subject where
  target : Target
  kind : Option ValueKind
  count : Option UInt64
  deriving DecidableEq, Repr

namespace Subject

def compare (s : Subject) (criterion : Criterion) (timeout : Option Nat) : Assertion :=
  { demand := .compare { target := s.target, criterion, kind := s.kind, count := s.count }
    timeout }

def valueCheck (s : Subject) (criterion : Criterion) (expected : List String)
    (test : List String → Except Fault Bool) : ValueCheck :=
  { directive := criterion.directive, target := s.target, kind := s.kind, count := s.count,
    expected, test }

end Subject

def Browser.World.located (w : World) : Target → Nat
  | .element (.value l) => (w.session.find w.now l).length
  | .element (.reference _) => 0
  | .html | .url => 1

def Subject.CountedOn (s : Subject) (w : World) : Prop :=
  w.located s.target ≠ 0 ∧ ∀ count, s.count = some count → count.toNat = w.located s.target

structure Subject.Reads (s : Subject) (w : World) (found : Extracted) : Prop where
  shown : w.extraction s.kind s.target = some found
  counted : ∀ count, s.count = some count → count.toNat = found.matched

section Values

variable {w : World} {s : Subject} {kind : Option ValueKind} {target : Target} {found : Extracted}

theorem locatedMatching (w : World) (l : Locator) :
    w.located (.element (.value l)) = (w.matching l).length :=
  (w.foundNames l).length_eq

theorem matchedLocated (shown : w.extraction kind target = some found) :
    found.matched = w.located target := by
  match target with
  | .html => cases shown; rfl
  | .url => cases shown; rfl
  | .element (.reference _) => cases shown
  | .element (.value l) =>
    change w.extracted kind (w.matching l) = some found at shown
    rw [locatedMatching]
    cases nodes : w.matching l with
    | nil => rw [nodes] at shown; cases shown
    | cons first rest => rw [nodes] at shown; cases shown; rfl

theorem extractionLocated (kind : Option ValueKind) (located : w.located target ≠ 0) :
    ∃ found, w.extraction kind target = some found := by
  match target with
  | .html => exact ⟨_, rfl⟩
  | .url => exact ⟨_, rfl⟩
  | .element (.reference _) => exact (located rfl).elim
  | .element (.value l) =>
    rw [locatedMatching] at located
    show ∃ found, w.extracted kind (w.matching l) = some found
    cases nodes : w.matching l with
    | nil => rw [nodes] at located; exact (located rfl).elim
    | cons first rest => exact ⟨_, rfl⟩

theorem Subject.Reads.answered (reads : s.Reads w found) :
    answerOf (Extract.fromTarget s.target s.kind) w = .ok (some found) := by
  have shown := reads.shown
  have literal : ∀ placeholder, s.target ≠ .element (.reference placeholder) := by
    intro placeholder target
    rw [target] at shown
    cases shown
  rw [answerOfResult (w.fromTargetSees s.kind literal), shown]

theorem Subject.readsIff : (∃ found, s.Reads w found) ↔ s.CountedOn w := by
  constructor
  · rintro ⟨found, shown, counted⟩
    have matched := matchedLocated shown
    have some : 1 ≤ found.matched := World.extractionMatched shown
    rw [matched] at some counted
    exact ⟨Nat.one_le_iff_ne_zero.mp some, counted⟩
  · rintro ⟨located, counted⟩
    obtain ⟨found, shown⟩ := extractionLocated s.kind located
    exact ⟨found, shown, matchedLocated shown ▸ counted⟩

end Values

section Decisions

variable {w : World} {s : Subject} {found : Extracted} {settings : CheckSettings}
  {predicates : Predicates} {timeout : Option Nat}

theorem comparisonMet {c : Comparison}
    (told : (Demand.compare c).truth predicates w = .ok true) :
    (Demand.compare c).MetOn predicates w := by
  cases made : ValueCheck.ofComparison predicates c with
  | error failure =>
    rw [comparisonMistaken made] at told
    cases told
  | ok check =>
    have checks := ValueCheck.ofComparisonChecks made
    have seen := World.valuesSeenBy checks w
    rw [comparisonTruth made, World.compared] at told
    split at told
    · cases told
    · generalize w.valuesSeen check = outcome at seen told
      cases seen with
      | accepted shown holds => exact ⟨_, shown, holds⟩
      | refused shown fails => cases told
      | unmatched nowhere => cases told
      | several shown one many => cases told

theorem passesReads (still : w.Still) {criterion : Criterion}
    (passes : (s.compare criterion timeout).PassesOn settings predicates w) :
    ∃ found, s.Reads w found := by
  have told := lenientTrue.mp ((passesOnIff still settings predicates _).mp passes)
  obtain ⟨found, shown, counted, -⟩ := comparisonMet told
  exact ⟨found, shown, counted⟩

theorem holdsRead (reads : s.Reads w found) (criterion : Criterion) (expected : List String)
    (test : List String → Except Fault Bool) :
    (s.valueCheck criterion expected test).holds found =
      (test found.values).mapError .scenario := by
  refine if_neg fun wrong => ?_
  obtain ⟨count, asked, differs⟩ := (Option.any_eq_true _ _).mp wrong
  exact of_decide_eq_true differs (reads.counted count asked)

theorem valueCheckMade {criterion : Criterion} {expected : List String}
    {test : List String → Except Fault Bool}
    (made : ValueCheck.ofCriterion predicates criterion = .ok (expected, test)) (s : Subject) :
    ValueCheck.ofComparison predicates
        { target := s.target, criterion, kind := s.kind, count := s.count } =
      .ok (s.valueCheck criterion expected test) := by
  rw [ValueCheck.ofComparison, made]
  rfl

theorem relationMade (predicates : Predicates) (relation : Relation) {expected : Expected}
    {values : List String} (literal : expected.toList = values.map Deferred.value) :
    ValueCheck.ofCriterion predicates (.relates relation expected) =
      .ok (values, fun actual => .ok (ValueCheck.relationTest relation values actual)) := by
  rw [ValueCheck.ofCriterion, literal, ValueCheck.literalsRead]
  rfl

theorem truthRead (reads : s.Reads w found) {criterion : Criterion} {expected : List String}
    {test : List String → Except Fault Bool}
    (made : ValueCheck.ofCriterion predicates criterion = .ok (expected, test)) :
    (s.compare criterion timeout).demand.truth predicates w =
      (test found.values).mapError .scenario := by
  have literal : w.compared (s.valueCheck criterion expected test) =
      w.valuesSeen (s.valueCheck criterion expected test) := by
    unfold World.compared
    split
    · next placeholder target =>
      have shown := reads.shown
      rw [show s.target = _ from target] at shown
      cases shown
    · rfl
  have shown : w.extraction (s.valueCheck criterion expected test).kind
      (s.valueCheck criterion expected test).target = some found := reads.shown
  refine (comparisonTruth (valueCheckMade made s) w).trans ?_
  simp only [literal, World.valuesSeen, shown, holdsRead reads]
  rcases test found.values with fault | _ | _
  · rfl
  · rfl
  · rfl

theorem relationPasses (still : w.Still) (reads : s.Reads w found) (relation : Relation)
    {expected : Expected} {values : List String}
    (literal : expected.toList = values.map Deferred.value) :
    (s.compare (.relates relation expected) timeout).PassesOn settings predicates w ↔
      relation.Relates values found.values := by
  rw [passesOnIff still, truthRead reads (relationMade predicates relation literal),
    ← ValueCheck.relationTestIff]
  exact decidedTrue

theorem likesOpposed (still : w.Still) (reads : s.Reads w found) {text : String}
    (few : found.values.length ≤ 1) (t u : Option Nat) :
    (s.compare (.likes (.value text)) t).PassesOn settings predicates w ↔
      ¬ (s.compare (.notLikes (.value text)) u).PassesOn settings predicates w := by
  obtain ⟨occurs, decided⟩ : ∃ occurs, Compare.likes found.values text = .ok occurs := by
    match found.values, few with
    | [], _ => exact ⟨_, rfl⟩
    | [_], _ => exact ⟨_, rfl⟩
  have positive : (s.compare (.likes (.value text)) t).PassesOn settings predicates w ↔
      occurs = true := by
    rw [passesOnIff still, truthRead reads rfl, decided]
    exact decidedTrue
  have negative : (s.compare (.notLikes (.value text)) u).PassesOn settings predicates w ↔
      (!occurs) = true := by
    rw [passesOnIff still, truthRead reads rfl, decided]
    exact decidedTrue
  rw [positive, negative, Bool.not_eq_true', Bool.not_eq_false]

theorem mistakeAnswered (still : w.Still) {a : Assertion} {failure : Failure}
    (mistaken : a.demand.truth predicates w = .error failure)
    (configuration : failure.isConfiguration = true) :
    answerOf (a.verify settings predicates) w = .error failure := by
  have told := verifyAnswer still settings predicates a
  rw [mistaken, lenientMistake configuration] at told
  exact (mistakenIff.mp told).1

theorem likesMistaken (still : w.Still) (reads : s.Reads w found) {text : String}
    (many : 2 ≤ found.values.length) (t u : Option Nat) :
    answerOf ((s.compare (.likes (.value text)) t).verify settings predicates) w =
      .error (.scenario (.manyValues found.values)) ∧
    answerOf ((s.compare (.notLikes (.value text)) u).verify settings predicates) w =
      .error (.scenario (.manyValues found.values)) := by
  have refused : Compare.likes found.values text = .error (.manyValues found.values) := by
    match found.values, many with
    | _ :: _ :: _, _ => rfl
  refine ⟨mistakeAnswered still ?_ rfl, mistakeAnswered still ?_ rfl⟩
  · rw [truthRead reads rfl, refused]
    rfl
  · rw [truthRead reads rfl, refused]
    rfl

end Decisions

theorem bothContained {expected found : List String} :
    (Relation.checked.Relates expected found ∧ Relation.unchecked.Relates expected found) ↔
      expected = [] := by
  refine ⟨fun ⟨all, excluded⟩ => ?_, fun nothing => nothing ▸ ⟨nofun, nofun⟩⟩
  exact List.eq_nil_iff_forall_not_mem.mpr fun value member =>
    excluded value member (all value member)

/-- Where the number of elements is right, a check and its opposite exclude each other, unless
nothing is expected; where it is wrong, they all fail. -/
theorem oppositesExclude {w : World} (still : w.Still) (settings : CheckSettings)
    (predicates : Predicates) (s : Subject) {expected : Expected} {values : List String}
    (literal : expected.toList = values.map Deferred.value) (text : String)
    (t u : Option Nat) :
    (¬ s.CountedOn w → ∀ criterion timeout,
      ¬ (s.compare criterion timeout).PassesOn settings predicates w) ∧
    (s.CountedOn w → ∃ found,
      answerOf (Extract.fromTarget s.target s.kind) w = .ok (some found) ∧
      ((s.compare (.relates .equals expected) t).PassesOn settings predicates w ↔
        ¬ (s.compare (.relates .notEquals expected) u).PassesOn settings predicates w) ∧
      (found.values.length ≤ 1 →
        ((s.compare (.likes (.value text)) t).PassesOn settings predicates w ↔
          ¬ (s.compare (.notLikes (.value text)) u).PassesOn settings predicates w)) ∧
      (2 ≤ found.values.length →
        answerOf ((s.compare (.likes (.value text)) t).verify settings predicates) w =
          .error (.scenario (.manyValues found.values)) ∧
        answerOf ((s.compare (.notLikes (.value text)) u).verify settings predicates) w =
          .error (.scenario (.manyValues found.values))) ∧
      ((s.compare (.relates .checked expected) t).PassesOn settings predicates w ∧
        (s.compare (.relates .unchecked expected) u).PassesOn settings predicates w ↔
          values = []) ∧
      ((s.compare (.relates .selected expected) t).PassesOn settings predicates w ∧
        (s.compare (.relates .unselected expected) u).PassesOn settings predicates w ↔
          values = [])) := by
  refine ⟨fun miscounted _ _ passes => ?miscounted, fun counted => ?_⟩
  case miscounted => exact miscounted (Subject.readsIff.mp (passesReads still passes))
  obtain ⟨found, reads⟩ := Subject.readsIff.mpr counted
  refine ⟨found, reads.answered, ?equals, ?likes, ?several, ?checked, ?selected⟩
  case equals =>
    rw [relationPasses still reads .equals literal, relationPasses still reads .notEquals literal]
    exact not_not.symm
  case likes => exact fun few => likesOpposed still reads few t u
  case several => exact fun many => likesMistaken still reads many t u
  case checked =>
    rw [relationPasses still reads .checked literal, relationPasses still reads .unchecked literal]
    exact bothContained
  case selected =>
    rw [relationPasses still reads .selected literal,
      relationPasses still reads .unselected literal]
    exact bothContained

def bothParagraphs : Subject :=
  { target := .element (.value paragraphs), kind := none, count := some 2 }

theorem bothRead : bothParagraphs.Reads (twoParagraphs false)
    { values := ["hello", "world"], reading := .innerText, matched := 2 } := by
  refine ⟨by decide, fun count asked => ?_⟩
  cases asked
  rfl

theorem oppositesOnBothParagraphs :
    (twoParagraphs false).Still ∧ bothParagraphs.CountedOn (twoParagraphs false) ∧
    (bothParagraphs.compare (.relates .equals
      (.many [.value "world", .value "hello"])) none).PassesOn .default [] (twoParagraphs false) ∧
    ¬ (bothParagraphs.compare (.relates .notEquals
      (.many [.value "world", .value "hello"])) (some 9)).PassesOn .default []
        (twoParagraphs false) := by
  have still : (twoParagraphs false).Still := by decide
  have counted : bothParagraphs.CountedOn (twoParagraphs false) :=
    Subject.readsIff.mp ⟨_, bothRead⟩
  have literal : (Expected.many [.value "world", .value "hello"]).toList =
      ["world", "hello"].map Deferred.value := rfl
  obtain ⟨found, -, equals, -⟩ :=
    (oppositesExclude still .default [] bothParagraphs literal "hello" none (some 9)).2 counted
  have passes : (bothParagraphs.compare (.relates .equals
      (.many [.value "world", .value "hello"])) none).PassesOn .default []
        (twoParagraphs false) := by
    rw [relationPasses still bothRead .equals literal]
    exact .swap _ _ _
  exact ⟨still, counted, passes, equals.mp passes⟩

end PageCheck
