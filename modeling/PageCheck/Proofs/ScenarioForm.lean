import PageCheck.Proofs.Blanks

/-!
The forms and the blanks of scenarios and of their parts, and that all of them are traversed. Within
a step come the address, the link, the guard, the actions, the checks and the nested scenario, and
within an action or an assertion the target before the values.
-/
namespace PageCheck

class Blanked (α : Type) [Slot α] [Inhabited α] where
  blank : Deferred α → Blank
  resolve (m : Mapping) (d : Deferred α) : (blank d).resolve m = do return blank (← d.resolve m)
  injective {d other : Deferred α} : blank d = blank other → d = other

instance : Blanked String := ⟨.text, fun _ _ => rfl, Blank.text.inj⟩

instance : Blanked Locator := ⟨.locator, fun _ _ => rfl, Blank.locator.inj⟩

instance : Blanked Bool := ⟨.flag, fun _ _ => rfl, Blank.flag.inj⟩

namespace Deferred

variable {α : Type} [Slot α] [Inhabited α] [Blanked α]

def form (_ : Deferred α) : Deferred α := .value default

def blanks (d : Deferred α) : List Blank := [Blanked.blank d]

theorem traverses : Traverses (resolve (α := α)) form blanks where
  fills m d := by
    have one : resolveItems (Blank.resolve m) d.blanks = do
        return [Blanked.blank (← d.resolve m)] := by
      rw [blanks, resolveItems, Blanked.resolve]
      cases d.resolve m <;> rfl
    cases resolved : d.resolve m with
    | ok found => exact .ok (by rw [one, resolved]; rfl) ⟨rfl, rfl⟩
    | error failure => exact .error (by rw [one, resolved]; rfl)
  whole _ sameBlanks := by
    obtain ⟨first, rest⟩ := List.cons.inj sameBlanks
    exact ⟨Blanked.injective first, rest⟩

end Deferred

namespace Target

def form : Target → Target
  | element locator => element locator.form
  | html => html
  | url => url

def blanks : Target → List Blank
  | element locator => locator.blanks
  | html | url => []

theorem traverses : Traverses resolve form blanks where
  fills m x := by
    cases x with
    | element locator =>
      exact Deferred.traverses.fillsOne element (fun _ => ⟨rfl, rfl⟩) locator
    | html => exact .pure ⟨rfl, rfl⟩
    | url => exact .pure ⟨rfl, rfl⟩
  whole {x y _ _} sameForm sameBlanks := by
    cases x with
    | element locator =>
      cases y with
      | element other =>
        obtain ⟨rfl, rest⟩ := Deferred.traverses.whole (element.inj sameForm) sameBlanks
        exact ⟨rfl, rest⟩
      | _ => cases sameForm
    | html =>
      cases y with
      | html => exact ⟨rfl, sameBlanks⟩
      | _ => cases sameForm
    | url =>
      cases y with
      | url => exact ⟨rfl, sameBlanks⟩
      | _ => cases sameForm

end Target

namespace Expected

def form : Expected → Expected
  | one value => one value.form
  | many values => many (values.map Deferred.form)

def blanks : Expected → List Blank
  | one value => value.blanks
  | many values => values.flatMap Deferred.blanks

theorem traverses : Traverses resolve form blanks where
  fills m x := by
    cases x with
    | one value => exact Deferred.traverses.fillsOne one (fun _ => ⟨rfl, rfl⟩) value
    | many values => exact Deferred.traverses.items.fillsOne many (fun _ => ⟨rfl, rfl⟩) values
  whole {x y _ _} sameForm sameBlanks := by
    cases x with
    | one value =>
      cases y with
      | one other =>
        obtain ⟨rfl, rest⟩ := Deferred.traverses.whole (one.inj sameForm) sameBlanks
        exact ⟨rfl, rest⟩
      | _ => cases sameForm
    | many values =>
      cases y with
      | many others =>
        obtain ⟨rfl, rest⟩ := Deferred.traverses.items.whole (many.inj sameForm) sameBlanks
        exact ⟨rfl, rest⟩
      | _ => cases sameForm

end Expected

namespace Criterion

def form : Criterion → Criterion
  | relates relation expected => relates relation expected.form
  | likes expected => likes expected.form
  | notLikes expected => notLikes expected.form
  | satisfies predicate => satisfies predicate

def blanks : Criterion → List Blank
  | relates _ expected => expected.blanks
  | likes expected | notLikes expected => expected.blanks
  | satisfies _ => []

theorem traverses : Traverses resolve form blanks where
  fills m x := by
    cases x with
    | relates relation expected =>
      exact Expected.traverses.fillsOne (relates relation) (fun _ => ⟨rfl, rfl⟩) expected
    | likes expected => exact Deferred.traverses.fillsOne likes (fun _ => ⟨rfl, rfl⟩) expected
    | notLikes expected =>
      exact Deferred.traverses.fillsOne notLikes (fun _ => ⟨rfl, rfl⟩) expected
    | satisfies predicate => exact .pure ⟨rfl, rfl⟩
  whole {x y _ _} sameForm sameBlanks := by
    cases x with
    | relates relation expected =>
      cases y with
      | relates relation' other =>
        obtain ⟨rfl, sameExpected⟩ := relates.inj sameForm
        obtain ⟨rfl, rest⟩ := Expected.traverses.whole sameExpected sameBlanks
        exact ⟨rfl, rest⟩
      | _ => cases sameForm
    | likes expected =>
      cases y with
      | likes other =>
        obtain ⟨rfl, rest⟩ := Deferred.traverses.whole (likes.inj sameForm) sameBlanks
        exact ⟨rfl, rest⟩
      | _ => cases sameForm
    | notLikes expected =>
      cases y with
      | notLikes other =>
        obtain ⟨rfl, rest⟩ := Deferred.traverses.whole (notLikes.inj sameForm) sameBlanks
        exact ⟨rfl, rest⟩
      | _ => cases sameForm
    | satisfies predicate =>
      cases y with
      | satisfies other =>
        obtain rfl := satisfies.inj sameForm
        exact ⟨rfl, sameBlanks⟩
      | _ => cases sameForm

end Criterion

namespace Presence

def form (p : Presence) : Presence := { p with target := p.target.form }

def blanks (p : Presence) : List Blank := p.target.blanks

theorem traverses : Traverses resolve form blanks where
  fills m x := Deferred.traverses.fillsOne (mk · x.count) (fun _ => ⟨rfl, rfl⟩) x.target
  whole {x y _ _} sameForm sameBlanks := by
    obtain ⟨target, count⟩ := x
    obtain ⟨other, count'⟩ := y
    obtain ⟨sameTarget, rfl⟩ := mk.inj sameForm
    obtain ⟨rfl, rest⟩ := Deferred.traverses.whole sameTarget sameBlanks
    exact ⟨rfl, rest⟩

end Presence

namespace Comparison

def form (c : Comparison) : Comparison :=
  { c with target := c.target.form, criterion := c.criterion.form }

def blanks (c : Comparison) : List Blank := c.target.blanks ++ c.criterion.blanks

theorem traverses : Traverses resolve form blanks where
  fills m x := Target.traverses.fillsTwo Criterion.traverses (mk · · x.kind x.count)
    (fun _ _ => ⟨rfl, rfl⟩) x.target x.criterion
  whole {x y _ _} sameForm sameBlanks := by
    obtain ⟨target, criterion, kind, count⟩ := x
    obtain ⟨target', criterion', kind', count'⟩ := y
    obtain ⟨sameTarget, sameCriterion, rfl, rfl⟩ := mk.inj sameForm
    obtain ⟨rfl, rfl, rest⟩ :=
      Target.traverses.wholeTwo Criterion.traverses sameTarget sameCriterion sameBlanks
    exact ⟨rfl, rest⟩

end Comparison

namespace Demand

def form : Demand → Demand
  | present presence => present presence.form
  | absent presence => absent presence.form
  | compare comparison => compare comparison.form

def blanks : Demand → List Blank
  | present presence | absent presence => presence.blanks
  | compare comparison => comparison.blanks

theorem traverses : Traverses resolve form blanks where
  fills m x := by
    cases x with
    | present presence =>
      exact Presence.traverses.fillsOne present (fun _ => ⟨rfl, rfl⟩) presence
    | absent presence => exact Presence.traverses.fillsOne absent (fun _ => ⟨rfl, rfl⟩) presence
    | compare comparison =>
      exact Comparison.traverses.fillsOne compare (fun _ => ⟨rfl, rfl⟩) comparison
  whole {x y _ _} sameForm sameBlanks := by
    cases x with
    | present presence =>
      cases y with
      | present other =>
        obtain ⟨rfl, rest⟩ := Presence.traverses.whole (present.inj sameForm) sameBlanks
        exact ⟨rfl, rest⟩
      | _ => cases sameForm
    | absent presence =>
      cases y with
      | absent other =>
        obtain ⟨rfl, rest⟩ := Presence.traverses.whole (absent.inj sameForm) sameBlanks
        exact ⟨rfl, rest⟩
      | _ => cases sameForm
    | compare comparison =>
      cases y with
      | compare other =>
        obtain ⟨rfl, rest⟩ := Comparison.traverses.whole (compare.inj sameForm) sameBlanks
        exact ⟨rfl, rest⟩
      | _ => cases sameForm

end Demand

namespace Assertion

def form (a : Assertion) : Assertion := { a with demand := a.demand.form }

def blanks (a : Assertion) : List Blank := a.demand.blanks

theorem traverses : Traverses resolve form blanks where
  fills m x := Demand.traverses.fillsOne (mk · x.timeout) (fun _ => ⟨rfl, rfl⟩) x.demand
  whole {x y _ _} sameForm sameBlanks := by
    obtain ⟨demand, timeout⟩ := x
    obtain ⟨demand', timeout'⟩ := y
    obtain ⟨sameDemand, rfl⟩ := mk.inj sameForm
    obtain ⟨rfl, rest⟩ := Demand.traverses.whole sameDemand sameBlanks
    exact ⟨rfl, rest⟩

end Assertion

namespace Condition

def form : Condition → Condition
  | flag value => flag value.form
  | assertion a => assertion a.form

def blanks : Condition → List Blank
  | flag value => value.blanks
  | assertion a => a.blanks

theorem traverses : Traverses resolve form blanks where
  fills m x := by
    cases x with
    | flag value => exact Deferred.traverses.fillsOne flag (fun _ => ⟨rfl, rfl⟩) value
    | assertion a => exact Assertion.traverses.fillsOne assertion (fun _ => ⟨rfl, rfl⟩) a
  whole {x y _ _} sameForm sameBlanks := by
    cases x with
    | flag value =>
      cases y with
      | flag other =>
        obtain ⟨rfl, rest⟩ := Deferred.traverses.whole (flag.inj sameForm) sameBlanks
        exact ⟨rfl, rest⟩
      | _ => cases sameForm
    | assertion a =>
      cases y with
      | assertion other =>
        obtain ⟨rfl, rest⟩ := Assertion.traverses.whole (assertion.inj sameForm) sameBlanks
        exact ⟨rfl, rest⟩
      | _ => cases sameForm

end Condition

namespace Guard

def form (g : Guard) : Guard := g.map (List.map Condition.form)

def blanks (g : Guard) : List Blank := g.flatMap (List.flatMap Condition.blanks)

theorem traverses : Traverses resolve form blanks := Condition.traverses.items.items

end Guard

namespace Frame

def form : Frame → Frame
  | top => top
  | within locator => within locator.form

def blanks : Frame → List Blank
  | top => []
  | within locator => locator.blanks

theorem traverses : Traverses resolve form blanks where
  fills m x := by
    cases x with
    | top => exact .pure ⟨rfl, rfl⟩
    | within locator => exact Deferred.traverses.fillsOne within (fun _ => ⟨rfl, rfl⟩) locator
  whole {x y _ _} sameForm sameBlanks := by
    cases x with
    | top =>
      cases y with
      | top => exact ⟨rfl, sameBlanks⟩
      | _ => cases sameForm
    | within locator =>
      cases y with
      | within other =>
        obtain ⟨rfl, rest⟩ := Deferred.traverses.whole (within.inj sameForm) sameBlanks
        exact ⟨rfl, rest⟩
      | _ => cases sameForm

end Frame

namespace Deed

def form : Deed → Deed
  | click target => click target.form
  | sendKeys target value => sendKeys target.form value.form
  | clear target mode => clear target.form mode
  | check target values => check target.form (values.map Deferred.form)
  | select target values => select target.form (values.map Deferred.form)
  | unselect target values => unselect target.form (values.map Deferred.form)
  | alert answer => alert answer
  | switchTo frame => switchTo frame.form

def blanks : Deed → List Blank
  | click target | clear target _ => target.blanks
  | sendKeys target value => target.blanks ++ value.blanks
  | check target values | select target values | unselect target values =>
    target.blanks ++ values.flatMap Deferred.blanks
  | alert _ => []
  | switchTo frame => frame.blanks

theorem traverses : Traverses resolve form blanks where
  fills m x := by
    cases x with
    | click target => exact Deferred.traverses.fillsOne click (fun _ => ⟨rfl, rfl⟩) target
    | sendKeys target value =>
      exact Deferred.traverses.fillsTwo Deferred.traverses sendKeys (fun _ _ => ⟨rfl, rfl⟩)
        target value
    | clear target mode =>
      exact Deferred.traverses.fillsOne (clear · mode) (fun _ => ⟨rfl, rfl⟩) target
    | check target values =>
      exact Deferred.traverses.fillsTwo Deferred.traverses.items check (fun _ _ => ⟨rfl, rfl⟩)
        target values
    | select target values =>
      exact Deferred.traverses.fillsTwo Deferred.traverses.items select (fun _ _ => ⟨rfl, rfl⟩)
        target values
    | unselect target values =>
      exact Deferred.traverses.fillsTwo Deferred.traverses.items unselect
        (fun _ _ => ⟨rfl, rfl⟩) target values
    | alert answer => exact .pure ⟨rfl, rfl⟩
    | switchTo frame => exact Frame.traverses.fillsOne switchTo (fun _ => ⟨rfl, rfl⟩) frame
  whole {x y _ _} sameForm sameBlanks := by
    cases x with
    | click target =>
      cases y with
      | click other =>
        obtain ⟨rfl, rest⟩ := Deferred.traverses.whole (click.inj sameForm) sameBlanks
        exact ⟨rfl, rest⟩
      | _ => cases sameForm
    | sendKeys target value =>
      cases y with
      | sendKeys target' value' =>
        obtain ⟨sameTarget, sameValue⟩ := sendKeys.inj sameForm
        obtain ⟨rfl, rfl, rest⟩ :=
          Deferred.traverses.wholeTwo Deferred.traverses sameTarget sameValue sameBlanks
        exact ⟨rfl, rest⟩
      | _ => cases sameForm
    | clear target mode =>
      cases y with
      | clear other mode' =>
        obtain ⟨sameTarget, rfl⟩ := clear.inj sameForm
        obtain ⟨rfl, rest⟩ := Deferred.traverses.whole sameTarget sameBlanks
        exact ⟨rfl, rest⟩
      | _ => cases sameForm
    | check target values =>
      cases y with
      | check target' values' =>
        obtain ⟨sameTarget, sameValues⟩ := check.inj sameForm
        obtain ⟨rfl, rfl, rest⟩ :=
          Deferred.traverses.wholeTwo Deferred.traverses.items sameTarget sameValues sameBlanks
        exact ⟨rfl, rest⟩
      | _ => cases sameForm
    | select target values =>
      cases y with
      | select target' values' =>
        obtain ⟨sameTarget, sameValues⟩ := select.inj sameForm
        obtain ⟨rfl, rfl, rest⟩ :=
          Deferred.traverses.wholeTwo Deferred.traverses.items sameTarget sameValues sameBlanks
        exact ⟨rfl, rest⟩
      | _ => cases sameForm
    | unselect target values =>
      cases y with
      | unselect target' values' =>
        obtain ⟨sameTarget, sameValues⟩ := unselect.inj sameForm
        obtain ⟨rfl, rfl, rest⟩ :=
          Deferred.traverses.wholeTwo Deferred.traverses.items sameTarget sameValues sameBlanks
        exact ⟨rfl, rest⟩
      | _ => cases sameForm
    | alert answer =>
      cases y with
      | alert other =>
        obtain rfl := alert.inj sameForm
        exact ⟨rfl, sameBlanks⟩
      | _ => cases sameForm
    | switchTo frame =>
      cases y with
      | switchTo other =>
        obtain ⟨rfl, rest⟩ := Frame.traverses.whole (switchTo.inj sameForm) sameBlanks
        exact ⟨rfl, rest⟩
      | _ => cases sameForm

end Deed

namespace Action

def form (a : Action) : Action := { a with deed := a.deed.form }

def blanks (a : Action) : List Blank := a.deed.blanks

theorem traverses : Traverses resolve form blanks where
  fills m x := Deed.traverses.fillsOne (mk · x.timeout) (fun _ => ⟨rfl, rfl⟩) x.deed
  whole {x y _ _} sameForm sameBlanks := by
    obtain ⟨deed, timeout⟩ := x
    obtain ⟨deed', timeout'⟩ := y
    obtain ⟨sameDeed, rfl⟩ := mk.inj sameForm
    obtain ⟨rfl, rest⟩ := Deed.traverses.whole sameDeed sameBlanks
    exact ⟨rfl, rest⟩

end Action

namespace StepBody

def form (b : StepBody) : StepBody where
  url := b.url.map Deferred.form
  link := b.link.map Deferred.form
  execif := b.execif.map Guard.form
  actions := b.actions.map Action.form
  checks := b.checks.map Assertion.form

def blanks (b : StepBody) : List Blank :=
  b.url.elim [] Deferred.blanks ++ (b.link.elim [] Deferred.blanks ++
    (b.execif.elim [] Guard.blanks ++
      (b.actions.flatMap Action.blanks ++ b.checks.flatMap Assertion.blanks)))

theorem traverses : Traverses resolve form blanks where
  fills m x := by
    refine (Deferred.traverses.option.fills m x.url).bind fun url _ sameUrl => ?_
    refine (Deferred.traverses.option.fills m x.link).bind fun link _ sameLink => ?_
    refine (Guard.traverses.option.fills m x.execif).bind fun execif _ sameGuard => ?_
    refine (Action.traverses.items.fills m x.actions).bind fun actions _ sameActions => ?_
    refine (Assertion.traverses.items.fills m x.checks).map fun checks _ sameChecks => ?_
    constructor
    · simp only [form, sameUrl, sameLink, sameGuard, sameActions, sameChecks]
    · simp only [blanks, sameUrl, sameLink, sameGuard, sameActions, sameChecks]
  whole {x y _ _} sameForm sameBlanks := by
    obtain ⟨url, link, execif, actions, checks⟩ := x
    obtain ⟨url', link', execif', actions', checks'⟩ := y
    obtain ⟨sameUrl, sameLink, sameGuard, sameActions, sameChecks⟩ := mk.inj sameForm
    simp only [blanks, List.append_assoc] at sameBlanks
    obtain ⟨rfl, afterUrl⟩ := Deferred.traverses.option.whole sameUrl sameBlanks
    obtain ⟨rfl, afterLink⟩ := Deferred.traverses.option.whole sameLink afterUrl
    obtain ⟨rfl, afterGuard⟩ := Guard.traverses.option.whole sameGuard afterLink
    obtain ⟨rfl, afterActions⟩ := Action.traverses.items.whole sameActions afterGuard
    obtain ⟨rfl, rest⟩ := Assertion.traverses.items.whole sameChecks afterActions
    exact ⟨rfl, rest⟩

end StepBody

namespace Step

mutual

def form : Step → Step
  | ⟨body, nested⟩ => ⟨body.form, formNested nested⟩

def formNested : Option (List Step) → Option (List Step)
  | none => none
  | some steps => some (formList steps)

def formList : List Step → List Step
  | [] => []
  | first :: rest => first.form :: formList rest

end

mutual

def blanks : Step → List Blank
  | ⟨body, nested⟩ => body.blanks ++ blanksNested nested

def blanksNested : Option (List Step) → List Blank
  | none => []
  | some steps => blanksList steps

def blanksList : List Step → List Blank
  | [] => []
  | first :: rest => first.blanks ++ blanksList rest

end

mutual

theorem fills (m : Mapping) : (x : Step) →
    Fills m x.blanks (fun y found => y.form = x.form ∧ y.blanks = found) (x.resolve m)
  | ⟨body, nested⟩ => by
    refine (StepBody.traverses.fills m body).bind fun body' _ sameBody => ?_
    refine (fillsNested m nested).map fun nested' _ sameNested => ?_
    simp only [form, blanks, sameBody, sameNested, and_self]

theorem fillsNested (m : Mapping) : (x : Option (List Step)) →
    Fills m (blanksNested x) (fun y found => formNested y = formNested x ∧ blanksNested y = found)
      (resolveNested m x)
  | none => .pure ⟨rfl, rfl⟩
  | some steps => (fillsList m steps).map fun _ _ same =>
    ⟨congrArg some same.1, same.2⟩

theorem fillsList (m : Mapping) : (x : List Step) →
    Fills m (blanksList x) (fun y found => formList y = formList x ∧ blanksList y = found)
      (resolveList m x)
  | [] => .pure ⟨rfl, rfl⟩
  | step :: rest => by
    refine (fills m step).bind fun first _ same => ?_
    refine (fillsList m rest).map fun others _ same' => ?_
    simp only [formList, blanksList, same, same', and_self]

end

mutual

theorem whole : (x y : Step) → ∀ {rest rest' : List Blank}, x.form = y.form →
    x.blanks ++ rest = y.blanks ++ rest' → x = y ∧ rest = rest'
  | ⟨body, nested⟩, ⟨body', nested'⟩ => by
    intro sameForm sameBlanks
    rw [form, form] at sameForm
    rw [blanks, blanks, List.append_assoc, List.append_assoc] at sameBlanks
    obtain ⟨sameBody, sameNested⟩ := mk.inj sameForm
    obtain ⟨rfl, afterBody⟩ := StepBody.traverses.whole sameBody sameBlanks
    obtain ⟨rfl, same⟩ := wholeNested nested nested' sameNested afterBody
    exact ⟨rfl, same⟩

theorem wholeNested : (x y : Option (List Step)) → ∀ {rest rest' : List Blank},
    formNested x = formNested y → blanksNested x ++ rest = blanksNested y ++ rest' →
    x = y ∧ rest = rest'
  | none, none => fun _ sameBlanks => ⟨rfl, sameBlanks⟩
  | none, some _ | some _, none => nofun
  | some steps, some steps' => fun sameForm sameBlanks => by
    obtain ⟨rfl, same⟩ := wholeList steps steps' (Option.some.inj sameForm) sameBlanks
    exact ⟨rfl, same⟩

theorem wholeList : (x y : List Step) → ∀ {rest rest' : List Blank},
    formList x = formList y → blanksList x ++ rest = blanksList y ++ rest' → x = y ∧ rest = rest'
  | [], [] => fun _ sameBlanks => ⟨rfl, sameBlanks⟩
  | [], _ :: _ | _ :: _, [] => nofun
  | step :: steps, step' :: steps' => by
    intro sameForm sameBlanks
    rw [formList, formList] at sameForm
    rw [blanksList, blanksList, List.append_assoc, List.append_assoc] at sameBlanks
    obtain ⟨sameStep, sameRest⟩ := List.cons.inj sameForm
    obtain ⟨rfl, afterStep⟩ := whole step step' sameStep sameBlanks
    obtain ⟨rfl, same⟩ := wholeList steps steps' sameRest afterStep
    exact ⟨rfl, same⟩

end

end Step

namespace Scenario

def form (s : Scenario) : Scenario := Step.formList s

def blanks (s : Scenario) : List Blank := Step.blanksList s

theorem traverses : Traverses resolve form blanks where
  fills := Step.fillsList
  whole := Step.wholeList _ _

end Scenario

end PageCheck
