import PageCheck.Proofs.Attempts
import PageCheck.Proofs.Polling

/-!
What the end of a check says about the page on which it ends. The verdict rests on the last look, so
it is true of the page as it is then; a check that fails on the page has waited until its deadline.
-/
namespace PageCheck

open Browser (World)

def Presence.FoundOn (page : World) (p : Presence) : Prop :=
  ∃ l first rest, p.target = .value l ∧ page.matching l = first :: rest ∧
    (∀ count, p.count = some count → count.toNat = (page.matching l).length) ∧
    first.hidden = false

def Presence.AbsentFrom (page : World) (p : Presence) : Prop :=
  ∃ l, p.target = .value l ∧ ∀ n ∈ page.matching l, n.hidden = true

def Demand.MetOn (predicates : Predicates) (page : World) : Demand → Prop
  | .present p => p.FoundOn page
  | .absent p => p.AbsentFrom page
  | .compare c => ∃ found, page.extraction c.kind c.target = some found ∧ c.Accepts predicates found

inductive Verdict (predicates : Predicates) (a : Assertion) (allowed : Nat) :
    (elapsed : Nat) → (page : World) → Except Failure Unit → Prop where
  | met {elapsed page} (inTime : elapsed ≤ allowed) (met : a.demand.MetOn predicates page) :
    Verdict predicates a allowed elapsed page (.ok ())
  | mismatch {page c found m} (demand : a.demand = .compare c)
    (read : Sees page (Extract.fromTarget c.target c.kind) (.ok (some found)))
    (shown : page.extraction c.kind c.target = some found) (located : 1 ≤ found.matched)
    (actual : m.actual = found.values) (refused : ¬ c.Accepts predicates found) :
    Verdict predicates a allowed allowed page (.error (.mismatch m))
  | unmatched {page c l directive locator} (demand : a.demand = .compare c)
    (target : c.target = .element (.value l)) (nowhere : page.matching l = []) :
    Verdict predicates a allowed allowed page (.error (.noSuchElement directive locator allowed))
  | missing {page p l directive locator} (demand : a.demand = .present p)
    (target : p.target = .value l)
    (unsuited : page.matching l = [] ∨
      (∃ count, p.count = some count ∧ count.toNat ≠ (page.matching l).length) ∨
      ∃ first rest, page.matching l = first :: rest ∧ first.hidden = true) :
    Verdict predicates a allowed allowed page (.error (.noSuchElement directive locator allowed))
  | lasting {page p l n directive locator} (demand : a.demand = .absent p)
    (target : p.target = .value l) (there : n ∈ page.matching l) (displayed : n.hidden = false) :
    Verdict predicates a allowed allowed page (.error (.elementExists directive locator allowed))
  | unknownPredicate {elapsed page c name} (inTime : elapsed ≤ allowed)
    (demand : a.demand = .compare c) (criterion : c.criterion = .satisfies name)
    (unknown : predicates.get? name = none) :
    Verdict predicates a allowed elapsed page (.error (.scenario (.unknownPredicate name)))
  | several {elapsed page c found} (inTime : elapsed ≤ allowed) (demand : a.demand = .compare c)
    (shown : page.extraction c.kind c.target = some found) (one : c.criterion.wantsOne = true)
    (many : 2 ≤ found.values.length) :
    Verdict predicates a allowed elapsed page (.error (.scenario (.manyValues found.values)))

theorem Verdict.inTime {predicates : Predicates} {a : Assertion} {allowed elapsed : Nat}
    {page : World} {outcome : Except Failure Unit}
    (h : Verdict predicates a allowed elapsed page outcome) : elapsed ≤ allowed := by
  cases h with
  | met inTime _ => exact inTime
  | unknownPredicate inTime _ _ _ => exact inTime
  | several inTime _ _ _ _ => exact inTime
  | _ => exact Nat.le_refl _

theorem Deferred.resolvedLiteral {α : Type} [Slot α] {m : Mapping} {written x : Deferred α}
    (resolved : written.resolve m = .ok x) : ∃ literal, x = .value literal := by
  cases written with
  | value literal => cases resolved; exact ⟨literal, rfl⟩
  | reference placeholder =>
    obtain ⟨_, _, found⟩ := bindOk.mp resolved
    obtain ⟨literal, _, rfl⟩ := mapOk.mp found
    exact ⟨literal, rfl⟩

theorem literalsResolved {m : Mapping} {written xs : List (Deferred String)}
    (resolved : resolveItems (Deferred.resolve m) written = .ok xs) :
    ∃ values, ValueCheck.literals xs = .ok values := by
  induction written generalizing xs with
  | nil => cases resolved; exact ⟨[], rfl⟩
  | cons first rest ih =>
    obtain ⟨x, atFirst, others⟩ := bindOk.mp resolved
    obtain ⟨tail, atRest, rfl⟩ := mapOk.mp others
    obtain ⟨value, rfl⟩ := Deferred.resolvedLiteral atFirst
    obtain ⟨values, read⟩ := ih atRest
    exact ⟨value :: values, mapOk.mpr ⟨values, read, rfl⟩⟩

theorem Expected.resolvedLiterals {m : Mapping} {written expected : Expected}
    (resolved : written.resolve m = .ok expected) :
    ∃ values, ValueCheck.literals expected.toList = .ok values := by
  cases written with
  | one value =>
    obtain ⟨_, found, rfl⟩ := mapOk.mp resolved
    obtain ⟨literal, rfl⟩ := Deferred.resolvedLiteral found
    exact ⟨[literal], rfl⟩
  | many values =>
    obtain ⟨_, found, rfl⟩ := mapOk.mp resolved
    exact literalsResolved found

theorem Target.resolvedLiteral {m : Mapping} {written target : Target}
    (resolved : written.resolve m = .ok target) (placeholder : Placeholder) :
    target ≠ .element (.reference placeholder) := by
  cases written with
  | html => cases resolved; exact nofun
  | url => cases resolved; exact nofun
  | element locator =>
    obtain ⟨_, found, rfl⟩ := mapOk.mp resolved
    obtain ⟨l, rfl⟩ := Deferred.resolvedLiteral found
    exact nofun

theorem Presence.resolvedLiteral {m : Mapping} {written p : Presence}
    (resolved : written.resolve m = .ok p) : ∃ l, p.target = .value l := by
  obtain ⟨_, found, rfl⟩ := mapOk.mp resolved
  exact Deferred.resolvedLiteral found

theorem ofCriterionFails {predicates : Predicates} {m : Mapping} {written c : Criterion}
    {failure : Failure} (resolved : written.resolve m = .ok c)
    (failed : ValueCheck.ofCriterion predicates c = .error failure) :
    ∃ name, c = .satisfies name ∧ predicates.get? name = none ∧
      failure = .scenario (.unknownPredicate name) := by
  cases written with
  | relates relation expected =>
    obtain ⟨_, found, rfl⟩ := mapOk.mp resolved
    obtain ⟨values, read⟩ := Expected.resolvedLiterals found
    simp only [ValueCheck.ofCriterion, read] at failed
    cases failed
  | likes expected =>
    obtain ⟨_, found, rfl⟩ := mapOk.mp resolved
    obtain ⟨text, rfl⟩ := Deferred.resolvedLiteral found
    cases failed
  | notLikes expected =>
    obtain ⟨_, found, rfl⟩ := mapOk.mp resolved
    obtain ⟨text, rfl⟩ := Deferred.resolvedLiteral found
    cases failed
  | satisfies name =>
    cases resolved
    unfold ValueCheck.ofCriterion at failed
    cases known : predicates.get? name with
    | some predicate => simp [known] at failed
    | none =>
      simp only [known] at failed
      cases failed
      exact ⟨name, rfl, known, rfl⟩

theorem ofComparisonFails {predicates : Predicates} {m : Mapping} {written : Criterion}
    {c : Comparison} {failure : Failure} (resolved : written.resolve m = .ok c.criterion)
    (failed : ValueCheck.ofComparison predicates c = .error failure) :
    ∃ name, c.criterion = .satisfies name ∧ predicates.get? name = none ∧
      failure = .scenario (.unknownPredicate name) := by
  unfold ValueCheck.ofComparison at failed
  cases made : ValueCheck.ofCriterion predicates c.criterion with
  | ok found => rw [made] at failed; cases failed
  | error e =>
    rw [made] at failed
    cases failed
    exact ofCriterionFails resolved made

/-- After some time the computation ends with an outcome that is judged right there. -/
def Concludes {α : Type} (judge : Nat → World → Except Failure α → Prop) (x : Check World α)
    (w : World) : Prop :=
  ∃ elapsed outcome, x w = resultIn outcome (w.pass elapsed) ∧
    judge elapsed (w.pass elapsed) outcome

theorem Concludes.afterPolling {α β ω : Type} {judge : Nat → World → Except Failure β → Prop}
    {timeout : Nat} {look : Check World (Attempt α ω)} {polling : Check World (Polled α ω)}
    {next : Polled α ω → Check World β} {w : World}
    (ends : Poller.Ends timeout look w (polling w))
    (ready : ∀ elapsed value, elapsed ≤ timeout →
      Sees (w.pass elapsed) look (.ok (.done value)) →
      ∃ outcome, Sees (w.pass elapsed) (next (.ready value)) outcome ∧
        judge elapsed (w.pass elapsed) outcome)
    (timedOut : ∀ observed, Sees (w.pass timeout) look (.ok (.again observed)) →
      ∃ outcome, Sees (w.pass timeout) (next (.timedOut observed)) outcome ∧
        judge timeout (w.pass timeout) outcome)
    (failed : ∀ elapsed failure, elapsed ≤ timeout →
      Sees (w.pass elapsed) look (.error failure) →
      judge elapsed (w.pass elapsed) (.error failure)) :
    Concludes judge (polling >>= next) w := by
  unfold Concludes
  show ∃ elapsed outcome, EStateM.bind polling next w = _ ∧ _
  unfold EStateM.bind
  generalize polling w = polled at ends
  cases ends with
  | @ready elapsed value inTime seen =>
    obtain ⟨outcome, concluded, judged⟩ := ready elapsed value inTime seen
    exact ⟨elapsed, outcome, concluded, judged⟩
  | @timedOut observed seen =>
    obtain ⟨outcome, concluded, judged⟩ := timedOut observed seen
    exact ⟨timeout, outcome, concluded, judged⟩
  | @failed elapsed failure inTime seen =>
    exact ⟨elapsed, .error failure, rfl, failed elapsed failure inTime seen⟩

theorem Concludes.afterLiteral {α β : Type} {judge : Nat → World → Except Failure β → Prop}
    {result : Except Failure α} {value : α} {next : α → Check World β} {w : World}
    (read : result = .ok value) (concludes : Concludes judge (next value) w) :
    Concludes judge (Check.ofExcept result >>= next) w := by
  subst read
  exact concludes

theorem Concludes.afterFault {α β : Type} {judge : Nat → World → Except Failure β → Prop}
    {result : Except Failure α} {failure : Failure} {next : α → Check World β} {w : World}
    (failed : result = .error failure) (judged : judge 0 w (.error failure)) :
    Concludes judge (Check.ofExcept result >>= next) w := by
  subst failed
  exact ⟨0, .error failure, rfl, judged⟩

theorem Concludes.afterEvent {α : Type} {judge : Nat → World → Except Failure α → Prop}
    (event : Event) {next : Unit → Check World α} {w : World}
    (concludes : Concludes judge (next ()) w) : Concludes judge (Check.emit event >>= next) w :=
  concludes

section Verdicts

variable {predicates : Predicates} {a : Assertion} {p : Poller} {l : Locator}

theorem presentConcludes (positive : 0 < p.interval) {presence : Presence}
    (demand : a.demand = .present presence) (target : presence.target = .value l) (w : World) :
    Concludes (Verdict predicates a p.timeout) (Assertion.verifyPresent presence p) w := by
  have sees (page : World) := page.lookForElementsSees l presence.count
  refine .afterLiteral (congrArg Deferred.get target) ?_
  refine .afterPolling (p.runEnds positive (fun page => ⟨_, sees page⟩) w) ?ready ?timedOut ?failed
  case ready =>
    intro elapsed found inTime seen
    obtain ⟨first, rest, located, right, displayed⟩ :=
      World.presenceDone (Except.ok.inj ((sees _).unique seen))
    refine ⟨_, .pure (), .met inTime ?_⟩
    rw [demand]
    exact ⟨l, first, rest, target, located, right, displayed⟩
  case timedOut =>
    intro matched seen
    have unsuited := World.presenceAgain (Except.ok.inj ((sees _).unique seen))
    exact ⟨_, .throw _, .missing demand target unsuited⟩
  case failed =>
    intro elapsed failure _ seen
    cases (sees _).unique seen

theorem absentConcludes (positive : 0 < p.interval) {presence : Presence}
    (demand : a.demand = .absent presence) (target : presence.target = .value l) (w : World) :
    Concludes (Verdict predicates a p.timeout) (Assertion.verifyAbsent presence p) w := by
  have sees (page : World) := page.lookForAbsenceSees l
  refine .afterLiteral (congrArg Deferred.get target) ?_
  refine .afterPolling (p.runEnds positive (fun page => ⟨_, sees page⟩) w) ?ready ?timedOut ?failed
  case ready =>
    intro elapsed _ inTime seen
    refine ⟨_, .pure (), .met inTime ?_⟩
    rw [demand]
    exact ⟨l, target, World.absenceDone (Except.ok.inj ((sees _).unique seen))⟩
  case timedOut =>
    intro visible seen
    obtain ⟨n, there, displayed⟩ := World.absenceAgain (Except.ok.inj ((sees _).unique seen))
    exact ⟨_, .throw _, .lasting demand target there displayed⟩
  case failed =>
    intro elapsed failure _ seen
    cases (sees _).unique seen

theorem comparisonConcludes (positive : 0 < p.interval) {comparison : Comparison}
    {check : ValueCheck} (demand : a.demand = .compare comparison)
    (literal : ∀ placeholder, comparison.target ≠ .element (.reference placeholder))
    (made : ValueCheck.ofComparison predicates comparison = .ok check) (w : World) :
    Concludes (Verdict predicates a p.timeout) (check.verify p) w := by
  have checks := ValueCheck.ofComparisonChecks made
  have sees (page : World) := page.lookSees (checks.target ▸ literal)
  have seenBy {page : World} {outcome} (seen : Sees page check.look outcome) :
      World.ComparisonSeen predicates comparison page outcome :=
    (sees page).unique seen ▸ World.valuesSeenBy checks page
  refine .afterPolling (p.runEnds positive (fun page => ⟨_, sees page⟩) w) ?ready ?timedOut ?failed
  case ready =>
    intro elapsed _ inTime seen
    refine ⟨_, .pure (), .met inTime ?_⟩
    cases seenBy seen with
    | accepted shown holds => exact demand ▸ ⟨_, shown, holds⟩
  case timedOut =>
    intro observed seen
    cases seenBy seen with
    | @refused found shown fails =>
      have read := World.fromTargetSees (w.pass p.timeout) comparison.kind literal
      rw [shown] at read
      refine ⟨_, Sees.bind (.pure ()) (.throw _), ?_⟩
      exact .mismatch demand read shown (World.extractionMatched shown) rfl fails
    | unmatched nowhere =>
      obtain ⟨l, target, unmatched⟩ := World.extractionNone literal nowhere
      exact ⟨_, .throw _, .unmatched demand target unmatched⟩
  case failed =>
    intro elapsed failure inTime seen
    cases seenBy seen with
    | several shown one many => exact .several inTime demand shown one many

theorem verifyConcludes {m : Mapping} {authored : Assertion} (resolved : authored.resolve m = .ok a)
    {settings : CheckSettings} (positive : 0 < settings.interval) (w : World) :
    Concludes (Verdict predicates a (a.poller settings).timeout)
      (a.verify settings predicates) w := by
  -- what resolution gives is what it gives again, so the parts of the assertion are resolved
  obtain ⟨demand, again, same⟩ := mapOk.mp (Assertion.settles m authored a resolved [])
  obtain rfl : demand = a.demand := congrArg Assertion.demand same
  refine .afterEvent _ ?_
  cases atDemand : a.demand with
  | present presence =>
    rw [atDemand] at again
    obtain ⟨_, found, same⟩ := mapOk.mp again
    cases same
    obtain ⟨l, target⟩ := Presence.resolvedLiteral found
    exact presentConcludes positive atDemand target w
  | absent presence =>
    rw [atDemand] at again
    obtain ⟨_, found, same⟩ := mapOk.mp again
    cases same
    obtain ⟨l, target⟩ := Presence.resolvedLiteral found
    exact absentConcludes positive atDemand target w
  | compare comparison =>
    rw [atDemand] at again
    obtain ⟨_, found, same⟩ := mapOk.mp again
    cases same
    obtain ⟨target, atTarget, rest⟩ := bindOk.mp found
    obtain ⟨criterion, atCriterion, same⟩ := mapOk.mp rest
    have literal := Target.resolvedLiteral atTarget
    rw [show target = comparison.target from congrArg Comparison.target same] at literal
    rw [show criterion = comparison.criterion from congrArg Comparison.criterion same]
      at atCriterion
    cases made : ValueCheck.ofComparison predicates comparison with
    | ok check => exact .afterLiteral made (comparisonConcludes positive atDemand literal made w)
    | error failure =>
      obtain ⟨name, asked, unknown, rfl⟩ := ofComparisonFails atCriterion made
      exact .afterFault made (.unknownPredicate (Nat.zero_le _) atDemand asked unknown)

end Verdicts

/-- A resolved check changes nothing but the clock, ends within its timeout, and tells the truth
about the page on which it ends. -/
theorem verdictOnPage {m : Mapping} {authored a : Assertion} (resolved : authored.resolve m = .ok a)
    {settings : CheckSettings} (positive : 0 < settings.interval) (predicates : Predicates)
    (w : World) :
    ∃ elapsed outcome, elapsed ≤ a.timeout.getD settings.timeout ∧
      a.verify settings predicates w = resultIn outcome { w with now := w.now + elapsed } ∧
      Verdict predicates a (a.timeout.getD settings.timeout) elapsed
        { w with now := w.now + elapsed } outcome := by
  obtain ⟨elapsed, outcome, ended, verdict⟩ := verifyConcludes resolved positive w
  exact ⟨elapsed, outcome, verdict.inTime, ended, verdict⟩

def greetingPage : World :=
  { session := { Browser.Session.start [] with
      url := "http://a/", html := "<p>", nodes := [{
        tag := "p", text := "hello", attrs := [("id", "greeting")], selected := false,
        hidden := false, parent := none, frame := none, appearAfter := some 30,
        removeAfter := some 60, onClick := [] }] }
    now := 7 }

def greets (target : Deferred Locator) : Assertion :=
  { demand := .compare {
      target := .element target, criterion := .relates .equals (.one (.value "hello")),
      kind := none, count := some 1 }
    timeout := some 40 }

def greeting : Locator := { strategy := .id, selector := "greeting" }

theorem verdictOnGreetingPage :
    (greets (.reference { key := "greeting", append := [] })).resolve
      [("greeting", .locator greeting)] = .ok (greets (.value greeting)) ∧
    0 < CheckSettings.default.interval ∧
    ∃ elapsed outcome, elapsed ≤ 40 ∧
      (greets (.value greeting)).verify .default [] greetingPage =
        resultIn outcome { greetingPage with now := greetingPage.now + elapsed } ∧
      Verdict [] (greets (.value greeting)) 40 elapsed
        { greetingPage with now := greetingPage.now + elapsed } outcome := by
  have resolved : (greets (.reference { key := "greeting", append := [] })).resolve
      [("greeting", .locator greeting)] = .ok (greets (.value greeting)) := rfl
  have positive : 0 < CheckSettings.default.interval := by decide
  exact ⟨resolved, positive, verdictOnPage resolved positive [] greetingPage⟩

end PageCheck
