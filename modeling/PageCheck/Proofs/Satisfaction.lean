import PageCheck.Assertion.Verify
import PageCheck.Proofs.Resolution
import PageCheck.Proofs.TextSearch

/-!
What comparisons require of the values on a page, told without sorting and searching. The test that
is made of a comparison decides it; only `likes` and `notLikes` refuse to decide, when there are
several values.
-/
namespace PageCheck

def Relation.Relates (expected found : List String) : Relation → Prop
  | .equals => found.Perm expected
  | .notEquals => ¬ found.Perm expected
  | .checked | .selected => ∀ value ∈ expected, value ∈ found
  | .unchecked | .unselected => ∀ value ∈ expected, value ∉ found

namespace Criterion

def Accepts (predicates : Predicates) (found : List String) : Criterion → Prop
  | .relates relation expected =>
    ∃ values, expected.toList = values.map Deferred.value ∧ relation.Relates values found
  | .likes expected =>
    ∃ text value, expected = .value text ∧ found = [value] ∧ text.toList <:+: value.toList
  | .notLikes expected =>
    ∃ text, expected = .value text ∧
      (found = [] ∨ ∃ value, found = [value] ∧ ¬ text.toList <:+: value.toList)
  | .satisfies name => ∃ predicate, predicates.get? name = some predicate ∧ predicate found = true

def wantsOne : Criterion → Bool
  | .likes _ | .notLikes _ => true
  | _ => false

end Criterion

def Comparison.Accepts (predicates : Predicates) (found : Extracted) (c : Comparison) : Prop :=
  (∀ count, c.count = some count → count.toNat = found.matched) ∧
    c.criterion.Accepts predicates found.values

namespace Compare

theorem orderedPairwise (values : List String) : (ordered values).Pairwise (· ≤ ·) := by
  have transitive (a b c : String) (first : decide (a ≤ b) = true) (next : decide (b ≤ c) = true) :
      decide (a ≤ c) = true :=
    decide_eq_true (String.le_trans (of_decide_eq_true first) (of_decide_eq_true next))
  have total (a b : String) : (decide (a ≤ b) || decide (b ≤ a)) = true := by
    simpa using String.le_total a b
  exact (List.pairwise_mergeSort transitive total values).imp of_decide_eq_true

theorem equalsIffPerm (found expected : List String) :
    equals found expected = true ↔ found.Perm expected := by
  rw [equals, beq_iff_eq]
  constructor
  · intro same
    have left : (ordered found).Perm found := List.mergeSort_perm _ _
    have right : (ordered expected).Perm expected := List.mergeSort_perm _ _
    exact left.symm.trans (same ▸ right)
  · intro perm
    have reordered : (ordered found).Perm (ordered expected) :=
      (List.mergeSort_perm _ _).trans (perm.trans (List.mergeSort_perm _ _).symm)
    exact reordered.eq_of_pairwise (fun _ _ _ _ => String.le_antisymm) (orderedPairwise found)
      (orderedPairwise expected)

end Compare

namespace ValueCheck

theorem relationTestIff (relation : Relation) (expected found : List String) :
    relationTest relation expected found = true ↔ relation.Relates expected found := by
  cases relation with
  | equals => exact Compare.equalsIffPerm found expected
  | notEquals => simp [relationTest, Relation.Relates, ← Compare.equalsIffPerm]
  | checked => simp [relationTest, Relation.Relates, Compare.containsAll]
  | selected => simp [relationTest, Relation.Relates, Compare.containsAll]
  | unchecked => simp [relationTest, Relation.Relates, Compare.containsNone]
  | unselected => simp [relationTest, Relation.Relates, Compare.containsNone]

theorem literalsOk {written : List (Deferred String)} {values : List String}
    (read : literals written = .ok values) : written = values.map Deferred.value := by
  induction written generalizing values with
  | nil => cases read; rfl
  | cons first rest ih =>
    obtain ⟨literal, atFirst, others⟩ := bindOk.mp read
    obtain ⟨last, atRest, rfl⟩ := mapOk.mp others
    cases first with
    | reference placeholder => cases atFirst
    | value _ =>
      cases atFirst
      exact congrArg _ (ih atRest)

theorem literalsRead (values : List String) :
    literals (values.map .value) = .ok values := by
  induction values with
  | nil => rfl
  | cons value values ih => exact bindOk.mpr ⟨value, rfl, mapOk.mpr ⟨values, ih, rfl⟩⟩

inductive Judges (predicates : Predicates) (c : Criterion) (values : List String) :
    Except Fault Bool → Prop where
  | accepted (holds : c.Accepts predicates values) : Judges predicates c values (.ok true)
  | refused (fails : ¬ c.Accepts predicates values) : Judges predicates c values (.ok false)
  | several (one : c.wantsOne = true) (many : 2 ≤ values.length) :
    Judges predicates c values (.error (.manyValues values))

variable {predicates : Predicates} {c : Criterion} {values : List String}

theorem judgesOfIff {held : Bool} (decides : held = true ↔ c.Accepts predicates values) :
    Judges predicates c values (.ok held) := by
  cases held with
  | true => exact .accepted (decides.mp rfl)
  | false => exact .refused fun holds => nomatch decides.mpr holds

theorem likesJudges (text : String) :
    Judges predicates (.likes (.value text)) values (Compare.likes values text) := by
  match values with
  | [] => exact .refused fun ⟨_, _, _, same, _⟩ => nomatch same
  | [value] =>
    refine judgesOfIff (Text.occursIffInfix.trans ⟨fun part => ⟨text, value, rfl, rfl, part⟩, ?_⟩)
    rintro ⟨_, _, ⟨⟩, ⟨⟩, part⟩
    exact part
  | first :: second :: rest => exact .several rfl (by simp)

theorem notLikesJudges (text : String) :
    Judges predicates (.notLikes (.value text)) values ((Compare.likes values text).map not) := by
  match values with
  | [] => exact .accepted ⟨text, rfl, .inl rfl⟩
  | [value] =>
    have decides : (!Text.occurs text.toList value.toList) = true ↔
        ¬ text.toList <:+: value.toList := by
      rw [← Text.occursIffInfix]
      simp
    refine judgesOfIff (decides.trans ⟨fun apart => ⟨text, rfl, .inr ⟨value, rfl, apart⟩⟩, ?_⟩)
    rintro ⟨_, ⟨⟩, ⟨⟨⟩⟩ | ⟨_, ⟨⟩, apart⟩⟩
    exact apart
  | first :: second :: rest => exact .several rfl (by simp)

theorem ofCriterionJudges {expected : List String} {test : List String → Except Fault Bool}
    (made : ofCriterion predicates c = .ok (expected, test)) (values : List String) :
    Judges predicates c values (test values) := by
  match c with
  | .relates relation written =>
    obtain ⟨_, read, made⟩ := mapOk.mp made
    cases made
    have spelled := literalsOk read
    refine judgesOfIff ((relationTestIff relation expected values).trans
      ⟨fun holds => ⟨expected, spelled, holds⟩, ?_⟩)
    rintro ⟨other, spelled', holds⟩
    have same : expected = other :=
      List.map_injective_iff.mpr (fun _ _ => Deferred.value.inj) (spelled.symm.trans spelled')
    exact same ▸ holds
  | .likes (.reference _) => cases made
  | .likes (.value text) =>
    cases made
    exact likesJudges text
  | .notLikes (.reference _) => cases made
  | .notLikes (.value text) =>
    cases made
    exact notLikesJudges text
  | .satisfies name =>
    unfold ofCriterion at made
    cases known : predicates.get? name with
    | none => simp [known] at made
    | some predicate =>
      simp only [known] at made
      cases made
      refine judgesOfIff ⟨fun holds => ⟨predicate, known, holds⟩, ?_⟩
      rintro ⟨other, known', holds⟩
      cases known.symm.trans known'
      exact holds

structure Checks (predicates : Predicates) (comparison : Comparison) (check : ValueCheck) :
    Prop where
  directive : check.directive = comparison.criterion.directive
  target : check.target = comparison.target
  kind : check.kind = comparison.kind
  count : check.count = comparison.count
  judges (values : List String) :
    Judges predicates comparison.criterion values (check.test values)

theorem ofComparisonChecks {comparison : Comparison} {check : ValueCheck}
    (made : ofComparison predicates comparison = .ok check) :
    Checks predicates comparison check := by
  obtain ⟨⟨expected, test⟩, atCriterion, same⟩ := bindOk.mp made
  cases same
  exact ⟨rfl, rfl, rfl, rfl, ofCriterionJudges atCriterion⟩

inductive Decides (predicates : Predicates) (comparison : Comparison) (found : Extracted) :
    Except Failure Bool → Prop where
  | accepted (holds : comparison.Accepts predicates found) :
    Decides predicates comparison found (.ok true)
  | refused (fails : ¬ comparison.Accepts predicates found) :
    Decides predicates comparison found (.ok false)
  | several (one : comparison.criterion.wantsOne = true) (many : 2 ≤ found.values.length) :
    Decides predicates comparison found (.error (.scenario (.manyValues found.values)))

theorem Checks.decides {comparison : Comparison} {check : ValueCheck}
    (h : Checks predicates comparison check) (found : Extracted) :
    Decides predicates comparison found (check.holds found) := by
  have counted : check.miscounted found = true ↔
      ¬ ∀ count, comparison.count = some count → count.toNat = found.matched := by
    rw [miscounted, h.count]
    cases comparison.count with
    | none => simp
    | some count =>
      rw [Option.any_some, decide_eq_true_iff]
      refine not_congr ⟨fun same _ asked => ?_, fun right => right count rfl⟩
      cases asked
      exact same
  unfold ValueCheck.holds
  cases wrong : check.miscounted found with
  | true => exact .refused fun accepted => counted.mp wrong accepted.1
  | false =>
    have right : ∀ count, comparison.count = some count → count.toNat = found.matched :=
      not_not.mp fun differs => nomatch wrong.symm.trans (counted.mpr differs)
    simp only [Bool.false_eq_true, if_false]
    have judged := h.judges found.values
    generalize check.test found.values = outcome at judged ⊢
    cases judged with
    | accepted holds => exact .accepted ⟨right, holds⟩
    | refused fails => exact .refused fun accepted => fails accepted.2
    | several one many => exact .several one many

end ValueCheck

end PageCheck
