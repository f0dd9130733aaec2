import PageCheck.Proofs.PageView
import PageCheck.Proofs.Satisfaction

/-!
What single looks see on the in-memory browser: one for displayed matches, one for their absence,
and one for values. None of them changes anything, so each sees something on every page.
-/
namespace PageCheck.Browser.World

open PageCheck

def presenceSeen (w : World) (l : Locator) (count : Option UInt64) :
    Attempt (List Handle) Nat :=
  match w.matching l with
  | [] => .again 0
  | first :: rest =>
    if Wait.unsuited count (rest.length + 1) || first.hidden then .again (rest.length + 1)
    else .done (w.session.find w.now l)

def displayed (w : World) (l : Locator) : List Node :=
  (w.matching l).filter fun n => !n.hidden

def absenceSeen (w : World) (l : Locator) : Attempt Unit Nat :=
  if (w.displayed l).length = 0 then .done () else .again (w.displayed l).length

def valuesSeen (w : World) (check : ValueCheck) :
    Except Failure (Attempt Unit (Option Extracted)) :=
  match w.extraction check.kind check.target with
  | none => .ok (.again none)
  | some found =>
    (check.holds found).map fun held => if held then .done () else .again (some found)

variable {w : World} {h : Handle} {n : Node}

theorem displayedSees (named : w.Names h n) :
    Sees w (Check.attempt (Host.isDisplayed h)) (.ok (.ok !n.hidden)) :=
  .attempt (readSees named _)

theorem locatedSees (w : World) (l : Locator) :
    Sees w (Check.attempt (Host.findAll l)) (.ok (.ok (w.session.find w.now l))) :=
  .attempt rfl

theorem lookForElementsSees (w : World) (l : Locator) (count : Option UInt64) :
    Sees w (Wait.lookForElements l count) (.ok (w.presenceSeen l count)) := by
  refine (w.locatedSees l).bind ?_
  have named := w.foundNames l
  unfold presenceSeen
  generalize w.session.find w.now l = found at named ⊢
  generalize w.matching l = nodes at named ⊢
  cases named with
  | nil => exact .pure _
  | @cons first n others nodes named rest =>
    dsimp only
    rw [← rest.length_eq]
    by_cases unsuited : Wait.unsuited count (others.length + 1) = true
    · simp only [unsuited, if_true, Bool.true_or]
      exact .pure _
    · simp only [unsuited, Bool.false_eq_true, if_false, Bool.false_or]
      refine (displayedSees named).bind ?_
      cases n.hidden with
      | true => exact .pure _
      | false => exact .pure _

theorem countDisplayedSees {found : List Handle} {nodes : List Node}
    (named : List.Forall₂ w.Names found nodes) :
    Sees w (Wait.countDisplayed found) (.ok (nodes.filter fun n => !n.hidden).length) := by
  induction named with
  | nil => exact .pure _
  | @cons h n others rest named _ ih =>
    refine (displayedSees named).bind ?_
    cases hidden : n.hidden with
    | true =>
      have same : ((n :: rest).filter fun n => !n.hidden) = rest.filter fun n => !n.hidden := by
        simp [hidden]
      rw [same, ← Nat.zero_add (rest.filter _).length]
      exact ih.bind (.pure _)
    | false =>
      have same : ((n :: rest).filter fun n => !n.hidden) =
          n :: rest.filter fun n => !n.hidden := by
        simp [hidden]
      rw [same, List.length_cons, Nat.add_comm]
      exact ih.bind (.pure _)

theorem lookForAbsenceSees (w : World) (l : Locator) :
    Sees w (Wait.lookForAbsence l) (.ok (w.absenceSeen l)) := by
  refine (w.locatedSees l).bind ?_
  refine (countDisplayedSees (w.foundNames l)).bind ?_
  show Sees w (if (w.displayed l).length = 0 then _ else _) _
  by_cases gone : (w.displayed l).length = 0
  · rw [if_pos gone, absenceSeen, if_pos gone]
    exact .pure _
  · rw [if_neg gone, absenceSeen, if_neg gone]
    exact .pure _

theorem sampleSees (w : World) {check : ValueCheck}
    (literal : ∀ placeholder, check.target ≠ .element (.reference placeholder)) :
    Sees w check.sample (.ok (w.extraction check.kind check.target)) :=
  (w.fromTargetSees check.kind literal).tryCatch _

theorem lookSees (w : World) {check : ValueCheck}
    (literal : ∀ placeholder, check.target ≠ .element (.reference placeholder)) :
    Sees w check.look (w.valuesSeen check) := by
  have sampled := w.sampleSees literal
  unfold valuesSeen
  generalize w.extraction check.kind check.target = found at sampled ⊢
  refine sampled.bind ?_
  cases found with
  | none => exact .pure _
  | some found =>
    have decided := Sees.ofExcept (s := w) (check.holds found)
    dsimp only
    generalize check.holds found = outcome at decided ⊢
    match outcome with
    | .error failure => exact decided.bindError _
    | .ok true => exact decided.bind (.pure _)
    | .ok false => exact decided.bind (.pure _)

variable {l : Locator} {count : Option UInt64}

theorem unsuitedIff {others : Nat} : Wait.unsuited count (others + 1) = true ↔
    ∃ asked, count = some asked ∧ asked.toNat ≠ others + 1 := by
  rw [Wait.unsuited, Bool.or_eq_true, decide_eq_true_iff, or_iff_right (Nat.succ_ne_zero others),
    Option.any_eq_true]
  simp only [decide_eq_true_iff]

theorem presenceDone {found : List Handle} (done : w.presenceSeen l count = .done found) :
    ∃ first rest, w.matching l = first :: rest ∧
      (∀ asked, count = some asked → asked.toNat = (w.matching l).length) ∧
      first.hidden = false := by
  unfold presenceSeen at done
  cases located : w.matching l with
  | nil => simp [located] at done
  | cons first rest =>
    simp only [located] at done
    split at done
    · cases done
    · next suited =>
      obtain ⟨right, displayed⟩ := not_or.mp (mt Bool.or_eq_true_iff.mpr suited)
      refine ⟨first, rest, rfl, fun asked given => ?_, Bool.eq_false_iff.mpr displayed⟩
      exact not_not.mp fun differs => right (unsuitedIff.mpr ⟨asked, given, differs⟩)

theorem presenceAgain {matched : Nat} (again : w.presenceSeen l count = .again matched) :
    w.matching l = [] ∨
      (∃ asked, count = some asked ∧ asked.toNat ≠ (w.matching l).length) ∨
      ∃ first rest, w.matching l = first :: rest ∧ first.hidden = true := by
  unfold presenceSeen at again
  cases located : w.matching l with
  | nil => exact .inl rfl
  | cons first rest =>
    simp only [located] at again
    split at again
    · next unsuited =>
      rcases Bool.or_eq_true_iff.mp unsuited with wrong | hidden
      · exact .inr (.inl (unsuitedIff.mp wrong))
      · exact .inr (.inr ⟨first, rest, rfl, hidden⟩)
    · cases again

theorem absenceDone (done : w.absenceSeen l = .done ()) : ∀ n ∈ w.matching l, n.hidden = true := by
  unfold absenceSeen at done
  split at done
  · next gone =>
    intro n member
    have nothing := List.filter_eq_nil_iff.mp (List.length_eq_zero_iff.mp gone) n member
    simpa using nothing
  · cases done

theorem absenceAgain {visible : Nat} (again : w.absenceSeen l = .again visible) :
    ∃ n ∈ w.matching l, n.hidden = false := by
  unfold absenceSeen at again
  split at again
  · cases again
  · next there =>
    obtain ⟨n, member⟩ := List.exists_mem_of_length_pos (Nat.pos_of_ne_zero there)
    obtain ⟨inMatches, displayed⟩ := List.mem_filter.mp member
    exact ⟨n, inMatches, by simpa using displayed⟩

inductive ComparisonSeen (predicates : Predicates) (c : Comparison) (page : World) :
    Except Failure (Attempt Unit (Option Extracted)) → Prop where
  | accepted {found} (shown : page.extraction c.kind c.target = some found)
    (holds : c.Accepts predicates found) : ComparisonSeen predicates c page (.ok (.done ()))
  | refused {found} (shown : page.extraction c.kind c.target = some found)
    (fails : ¬ c.Accepts predicates found) :
    ComparisonSeen predicates c page (.ok (.again (some found)))
  | unmatched (nowhere : page.extraction c.kind c.target = none) :
    ComparisonSeen predicates c page (.ok (.again none))
  | several {found} (shown : page.extraction c.kind c.target = some found)
    (one : c.criterion.wantsOne = true) (many : 2 ≤ found.values.length) :
    ComparisonSeen predicates c page (.error (.scenario (.manyValues found.values)))

theorem valuesSeenBy {predicates : Predicates} {c : Comparison} {check : ValueCheck}
    (checks : ValueCheck.Checks predicates c check) (page : World) :
    ComparisonSeen predicates c page (page.valuesSeen check) := by
  unfold valuesSeen
  rw [checks.kind, checks.target]
  cases shown : page.extraction c.kind c.target with
  | none => exact .unmatched shown
  | some found =>
    have decided := checks.decides found
    dsimp only
    generalize check.holds found = outcome at decided ⊢
    cases decided with
    | accepted holds => exact .accepted shown holds
    | refused fails => exact .refused shown fails
    | several one many => exact .several shown one many

end PageCheck.Browser.World
