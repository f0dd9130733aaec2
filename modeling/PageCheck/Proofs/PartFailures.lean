import PageCheck.Proofs.Raises
import PageCheck.Proofs.References

/-!
What the parts of a step fail with: guards, navigation, actions, checks and scans of the console.
Whatever holds of the failures that they raise themselves, and of the errors of the browser that
they pass on, holds of all their failures. A reference that is not resolved is left out; it can only
be met where one is left.
-/
namespace PageCheck

inductive HostFails {σ E : Type} [Host σ E] : HostError → σ → Prop where
  | goto {url s e t} (failed : Host.goto url s = .error e t) : HostFails e t
  | currentUrl {s e t} (failed : Host.currentUrl s = .error e t) : HostFails e t
  | outerHtml {s e t} (failed : Host.outerHtml s = .error e t) : HostFails e t
  | findAll {l s e t} (failed : Host.findAll l s = .error e t) : HostFails e t
  | findWithin {h l s e t} (failed : Host.findWithin h l s = .error e t) : HostFails e t
  | isDisplayed {h s e t} (failed : Host.isDisplayed h s = .error e t) : HostFails e t
  | tagName {h s e t} (failed : Host.tagName h s = .error e t) : HostFails e t
  | attr {h name s e t} (failed : Host.attr h name s = .error e t) : HostFails e t
  | text {h s e t} (failed : Host.text h s = .error e t) : HostFails e t
  | isSelected {h s e t} (failed : Host.isSelected h s = .error e t) : HostFails e t
  | click {h s e t} (failed : Host.click h s = .error e t) : HostFails e t
  | sendKeys {h keys s e t} (failed : Host.sendKeys h keys s = .error e t) : HostFails e t
  | clear {h s e t} (failed : Host.clear h s = .error e t) : HostFails e t
  | drainConsole {s e t} (failed : Host.drainConsole s = .error e t) : HostFails e t
  | leaveFrames {s e t} (failed : Host.leaveFrames s = .error e t) : HostFails e t
  | element {l time s e t} (failed : Wait.element l time s = .error e t)
      (inTime : ∀ awaited, e ≠ .timeout awaited) : HostFails e t
  | enterFrame {l time h r s e t} (found : Wait.element l time r = .ok h s)
      (failed : Host.enterFrame l s = .error e t) : HostFails e t
  | acceptDialog {time s e t} (failed : Host.acceptDialog time s = .error e t)
      (inTime : ∀ awaited, e ≠ .timeout awaited) (opened : e ≠ .noAlert) : HostFails e t
  | dismissDialog {time s e t} (failed : Host.dismissDialog time s = .error e t)
      (inTime : ∀ awaited, e ≠ .timeout awaited) (opened : e ≠ .noAlert) : HostFails e t

def Action.answered {σ : Type} (directive : String) (time : Nat) :
    Except HostError Unit → Check σ Unit
  | .ok () => return ()
  | .error (.timeout _) | .error .noAlert =>
    throw (.noSuchElement directive "native dialog" time)
  | .error e => throw (.host e)

structure Admits {σ E : Type} [Host σ E] (P : Failure → σ → Prop) : Prop where
  host {e : HostError} {t : σ} (failed : HostFails e t) : P (.host e) t
  noSuchElement (directive locator : String) (timeout : Nat) (t : σ) :
    P (.noSuchElement directive locator timeout) t
  elementExists (directive locator : String) (timeout : Nat) (t : σ) :
    P (.elementExists directive locator timeout) t
  mismatch (found : Mismatch) (t : σ) : P (.mismatch found) t
  script (entry : String) (t : σ) : P (.script entry) t
  status (code : Nat) (entry : String) (t : σ) : P (.status code entry) t
  unknownPredicate (name : String) (t : σ) : P (.scenario (.unknownPredicate name)) t
  manyValues (values : List String) (t : σ) : P (.scenario (.manyValues values)) t

def Tolerates {σ : Type} (P : Failure → σ → Prop) (references : List Placeholder) : Prop :=
  ∀ p ∈ references, ∀ t, P (.scenario (.unresolved p.key)) t

section Literals

variable {σ : Type} {P : Failure → σ → Prop}

namespace Tolerates

variable {α : Type} {first rest : List Placeholder} {references : α → List Placeholder}
  {items : List α}

theorem left (both : Tolerates P (first ++ rest)) : Tolerates P first :=
  fun p member => both p (List.mem_append_left _ member)

theorem right (both : Tolerates P (first ++ rest)) : Tolerates P rest :=
  fun p member => both p (List.mem_append_right _ member)

theorem item (all : Tolerates P (items.flatMap references)) {x : α} (member : x ∈ items) :
    Tolerates P (references x) :=
  fun p inside => all p (List.mem_flatMap.mpr ⟨x, member, inside⟩)

end Tolerates

theorem Deferred.getFails {α : Type} {d : Deferred α} (left : Tolerates P d.references) (t : σ) :
    Fails (P · t) d.get := by
  cases d with
  | value literal => exact .ok literal
  | reference placeholder => exact .error (left placeholder List.mem_cons_self t)

theorem ValueCheck.literalsFail {values : List (Deferred String)}
    (left : Tolerates P (values.flatMap Deferred.references)) (t : σ) :
    Fails (P · t) (ValueCheck.literals values) := by
  induction values with
  | nil => exact .ok _
  | cons first rest ih =>
    rw [List.flatMap_cons] at left
    exact (Deferred.getFails left.left t).bind fun _ => (ih left.right).bind fun _ => .ok _

def ValueCheck.TestsOne (check : ValueCheck) : Prop :=
  ∀ values fault, check.test values = .error fault → fault = .manyValues values

theorem likesTestsOne {actual : List String} {value : String} {fault : Fault}
    (failed : Compare.likes actual value = .error fault) : fault = .manyValues actual := by
  match actual, failed with
  | _ :: _ :: _, rfl => rfl

theorem ValueCheck.ofComparisonTestsOne {predicates : Predicates} {c : Comparison}
    {check : ValueCheck} (made : ofComparison predicates c = .ok check) : check.TestsOne := by
  obtain ⟨⟨expected, test⟩, found, made⟩ := bindOk.mp made
  cases made
  show ∀ values fault, test values = .error fault → fault = .manyValues values
  cases criterion : c.criterion with
  | relates relation wanted =>
    rw [criterion] at found
    obtain ⟨values, -, ⟨⟩⟩ := mapOk.mp found
    exact nofun
  | likes wanted =>
    rw [criterion] at found
    obtain ⟨value, -, ⟨⟩⟩ := mapOk.mp found
    exact fun _ _ failed => likesTestsOne failed
  | notLikes wanted =>
    rw [criterion] at found
    obtain ⟨value, -, ⟨⟩⟩ := mapOk.mp found
    intro values fault failed
    cases tested : Compare.likes values value with
    | ok holds =>
      simp only [tested] at failed
      cases failed
    | error other =>
      simp only [tested] at failed
      cases failed
      exact likesTestsOne tested
  | satisfies name =>
    rw [criterion] at found
    simp only [ofCriterion] at found
    split at found
    · cases found
      exact nofun
    · cases found

theorem ValueCheck.ofComparisonFails {E : Type} [Host σ E] {predicates : Predicates}
    (admits : Admits P) {c : Comparison} (left : Tolerates P c.references) (t : σ) :
    Fails (P · t) (ofComparison predicates c) := by
  refine Fails.bind ?_ fun _ => .ok _
  have left := left.right
  unfold ofCriterion
  cases criterion : c.criterion with
  | relates relation expected =>
    rw [criterion] at left
    exact (literalsFail left t).bind fun _ => .ok _
  | likes expected =>
    rw [criterion] at left
    exact (Deferred.getFails left t).bind fun _ => .ok _
  | notLikes expected =>
    rw [criterion] at left
    exact (Deferred.getFails left t).bind fun _ => .ok _
  | satisfies name =>
    dsimp only
    cases predicates.get? name with
    | none => exact .error (admits.unknownPredicate name t)
    | some predicate => exact .ok _

theorem ValueCheck.holdsFails {E : Type} [Host σ E] (admits : Admits P) {check : ValueCheck}
    (testsOne : check.TestsOne) (found : Extracted) (t : σ) :
    Fails (P · t) (check.holds found) := by
  unfold holds
  split
  · exact .ok _
  · cases tested : check.test found.values with
    | ok holds => exact .ok _
    | error fault =>
      rw [testsOne _ _ tested]
      exact .error (admits.manyValues _ t)

end Literals

theorem Console.scanTells {url : String} {entries : List String} {failure : Failure}
    (found : Console.scan url entries = some failure) :
    (∃ entry, failure = .script entry) ∨ ∃ code entry, failure = .status code entry := by
  obtain ⟨entry, _, judged⟩ := List.exists_of_findSome?_eq_some found
  unfold Console.judge at judged
  split at judged
  · cases judged
    exact .inl ⟨_, rfl⟩
  · obtain ⟨_, _, judged⟩ := Option.bind_eq_some_iff.mp judged
    obtain ⟨_, _, judged⟩ := Option.bind_eq_some_iff.mp judged
    cases judged
    exact .inr ⟨_, _, rfl⟩

namespace Raises

variable {σ E : Type} [Host σ E] {P : Failure → σ → Prop}

theorem literal {α : Type} {d : Deferred α} (left : Tolerates P d.references) :
    Raises P (Check.ofExcept d.get : Check σ α) :=
  ofExcept (Deferred.getFails left)

section Parts

variable (admits : Admits P)

include admits

theorem asks {α : Type} {operation : EStateM HostError σ α}
    (fails : ∀ {s e t}, operation s = .error e t → HostFails e t) :
    Raises P (Check.ask operation) :=
  ask fun _ _ _ failed => admits.host (fails failed)

theorem lookForElements (l : Locator) (count : Option UInt64) :
    Raises P (Wait.lookForElements (σ := σ) l count) := by
  refine attempt (fun found => ?_) fun failed =>
    throwUnless (.pure _) (admits.host (.findAll failed))
  match found with
  | [] => exact .pure _
  | first :: rest =>
    refine .ite (.pure _) (attempt (fun shown => ?_) fun failed =>
      throwUnless (.pure _) (admits.host (.isDisplayed failed)))
    cases shown <;> exact .pure _

theorem elements (l : Locator) (count : Option UInt64) (p : Poller) :
    Raises P (Wait.elements (σ := σ) l count p) :=
  .poll p (lookForElements admits l count)

theorem countDisplayed (found : List E) :
    Raises P (Wait.countDisplayed (σ := σ) found) := by
  induction found with
  | nil => exact .pure _
  | cons first rest ih =>
    have others (here : Nat) : Raises P
        (do return here + (← Wait.countDisplayed (σ := σ) rest)) := ih.bind fun _ => .pure _
    refine attempt (fun shown => ?_) fun failed =>
      throwUnless (others 0) (admits.host (.isDisplayed failed))
    cases shown with
    | true => exact others 1
    | false => exact others 0

theorem absence (l : Locator) (p : Poller) : Raises P (Wait.absence (σ := σ) l p) := by
  refine .poll p (attempt (fun found => ?_) fun failed =>
    throwUnless (.pure _) (admits.host (.findAll failed)))
  exact (countDisplayed admits found).bind fun _ => .ite (.pure _) (.pure _)

theorem valueOf (e : E) :
    Raises P (Extract.valueOf (σ := σ) e) :=
  (asks admits .attr).bind fun _ => .pure _

theorem detect (e : E) : Raises P (Extract.detect (σ := σ) e) := by
  refine (asks admits .tagName).bind fun tag => .ite (.pure _) ?_
  refine (asks admits .attr).bind fun kind => ?_
  exact .ite (.pure _) (.ite (.pure _) (.ite (.pure _) (.pure _)))

theorem selectedValues (found : List E) :
    Raises P (Extract.selectedValues (σ := σ) found) := by
  induction found with
  | nil => exact .pure _
  | cons first rest ih =>
    have others (here : List String) : Raises P
        (do return here ++ (← Extract.selectedValues (σ := σ) rest)) := ih.bind fun _ => .pure _
    refine (asks admits .isSelected).bind fun selected => .ite ?_ (others [])
    exact ((valueOf admits first).map List.singleton).bind others

theorem selectValues (found : List E) :
    Raises P (Extract.selectValues (σ := σ) found) := by
  induction found with
  | nil => exact .pure _
  | cons first rest ih =>
    refine (asks admits .findWithin).bind fun _ => (selectedValues admits _).bind fun _ => ?_
    exact ih.bind fun _ => .pure _

omit admits [Host σ E] in
theorem eachValue {read : E → Check σ String}
    (each : ∀ e, Raises P (read e)) (found : List E) :
    Raises P (Extract.eachValue read found) := by
  induction found with
  | nil => exact .pure _
  | cons first rest ih => exact (each first).bind fun _ => ih.bind fun _ => .pure _

theorem readingOf (kind : Option ValueKind) (found : List E) :
    Raises P (Extract.readingOf (σ := σ) kind found) := by
  match kind, found with
  | some (.attr name), _ => exact .pure _
  | some .select, _ => exact .pure _
  | some .checkbox, _ => exact .pure _
  | some .radio, _ => exact .pure _
  | none, first :: _ => exact detect admits first
  | none, [] => exact .pure _

theorem valuesBy (reading : Reading) (found : List E) :
    Raises P (Extract.valuesBy (σ := σ) reading found) := by
  cases reading with
  | attr name => exact eachValue (fun _ => (asks admits .attr).bind fun _ => .pure _) found
  | select => exact selectValues admits found
  | checkbox => exact selectedValues admits found
  | radio => exact selectedValues admits found
  | input => exact eachValue (valueOf admits) found
  | innerText => exact eachValue (fun _ => asks admits .text) found
  | html => exact eachValue (fun _ => asks admits .text) found
  | url => exact eachValue (fun _ => asks admits .text) found

theorem fromTarget {target : Target} (left : Tolerates P target.references)
    (kind : Option ValueKind) :
    Raises P (Extract.fromTarget (σ := σ) target kind) := by
  cases target with
  | html => exact (asks admits .outerHtml).bind fun _ => .pure _
  | url => exact (asks admits .currentUrl).bind fun _ => .pure _
  | element locator =>
    refine (literal left).bind fun l => (asks admits .findAll).bind fun found => ?_
    cases found with
    | nil => exact .pure _
    | cons first rest =>
      refine Raises.map some ((readingOf admits kind _).bind fun reading => ?_)
      exact (valuesBy admits reading _).bind fun _ => .pure _

theorem sample {check : ValueCheck} (left : Tolerates P check.target.references) :
    Raises P (check.sample (σ := σ)) := by
  refine (fromTarget admits left check.kind).tryCatch fun caught s holds => ?_
  cases caught with
  | host e => exact throwUnless (.pure _) holds
  | _ =>
    rintro _ _ ⟨⟩
    exact holds

theorem look {check : ValueCheck} (left : Tolerates P check.target.references)
    (testsOne : check.TestsOne) :
    Raises P (check.look (σ := σ)) := by
  refine (sample admits left).bind fun found => ?_
  cases found with
  | none => exact .pure _
  | some found =>
    refine (ofExcept (ValueCheck.holdsFails admits testsOne found)).bind fun _ => ?_
    exact .ite (.pure _) (.pure _)

theorem compared {α : Type} {predicates : Predicates} {c : Comparison}
    (left : Tolerates P c.references) {next : ValueCheck → Check σ α}
    (rest : ∀ check : ValueCheck, Tolerates P check.target.references → check.TestsOne →
      Raises P (next check)) :
    Raises P
      (Check.ofExcept (ValueCheck.ofComparison predicates c) >>= next) := by
  refine given (ValueCheck.ofComparisonFails admits left) fun check made => ?_
  refine rest check ?_ (ValueCheck.ofComparisonTestsOne made)
  obtain ⟨found, -, ⟨⟩⟩ := bindOk.mp made
  exact left.left

theorem verify (settings : CheckSettings) (predicates : Predicates) {a : Assertion}
    (left : Tolerates P a.references) :
    Raises P (a.verify (σ := σ) settings predicates) := by
  unfold Assertion.verify
  refine (emit _).bind fun _ => ?_
  obtain ⟨demand, timeout⟩ := a
  cases demand with
  | present presence =>
    refine (literal left).bind fun l => (elements admits l _ _).bind fun outcome => ?_
    cases outcome with
    | ready found => exact .pure _
    | timedOut matched => exact .throw fun _ => admits.noSuchElement ..
  | absent presence =>
    refine (literal left).bind fun l => (absence admits l _).bind fun outcome => ?_
    cases outcome with
    | ready found => exact .pure _
    | timedOut matched => exact .throw fun _ => admits.elementExists ..
  | compare comparison =>
    refine compared admits left fun check left testsOne => ?_
    refine (poll _ (look admits left testsOne)).bind fun outcome => ?_
    match outcome with
    | .ready () => exact .pure _
    | .timedOut (some found) => exact (emit _).bind fun _ => .throw (admits.mismatch _)
    | .timedOut none => exact .throw fun _ => admits.noSuchElement ..

theorem located {presence : Presence} (left : Tolerates P presence.references) (p : Poller) :
    Raises P (Assertion.located (σ := σ) presence p) := by
  unfold Assertion.located Assertion.await
  refine .bind ((literal left).bind fun l => elements admits l _ p) fun outcome => ?_
  cases outcome with
  | ready found => exact .pure _
  | timedOut matched => exact .pure _

omit admits in
theorem leniently (directive : String) {question : Check σ Bool}
    (raises : Raises P question) :
    Raises P (Assertion.leniently directive question) := by
  refine raises.tryCatch fun caught s holds => ?_
  split
  · rintro _ _ ⟨⟩
    exact holds
  · exact (emit _).bind (fun _ => .pure _) s

theorem condition (settings : CheckSettings) (predicates : Predicates) {c : Condition}
    (left : Tolerates P c.references) :
    Raises P (Guard.condition (σ := σ) settings predicates c) := by
  cases c with
  | flag value => exact literal left
  | assertion a =>
    obtain ⟨demand, timeout⟩ := a
    show Raises _ (Assertion.holds settings predicates _)
    unfold Assertion.holds
    cases demand with
    | present presence => exact leniently _ (located admits left _)
    | absent presence => exact leniently _ ((located admits left _).map not)
    | compare comparison =>
      refine compared admits left fun check left testsOne => leniently _ ?_
      refine (sample admits left).bind fun found => ?_
      cases found with
      | none => exact .pure _
      | some found => exact .ofExcept (ValueCheck.holdsFails admits testsOne found)

theorem anyOf (settings : CheckSettings) (predicates : Predicates) {group : List Condition}
    (left : Tolerates P (group.flatMap Condition.references)) :
    Raises P (Guard.anyOf (σ := σ) settings predicates group) := by
  induction group with
  | nil => exact .pure _
  | cons first rest ih =>
    rw [List.flatMap_cons] at left
    refine (condition admits settings predicates left.left).bind fun _ => .ite (.pure _) ?_
    exact ih left.right

theorem allOf (settings : CheckSettings) (predicates : Predicates) (index : Nat) {g : Guard}
    (left : Tolerates P g.references) :
    Raises P (Guard.allOf (σ := σ) settings predicates index g) := by
  induction g generalizing index with
  | nil => exact .pure _
  | cons group rest ih =>
    rw [Guard.references, List.flatMap_cons] at left
    refine (anyOf admits settings predicates left.left).bind fun _ => .ite (ih _ left.right) ?_
    exact (emit _).bind fun _ => .pure _

theorem awaitElement (directive : String) (l : Locator) (time : Nat) :
    Raises P (Action.awaitElement (σ := σ) directive l time) := by
  refine attempt (fun element => .pure _) (@fun s e t failed => ?_)
  rintro _ _ ⟨⟩
  cases e with
  | timeout awaited => exact admits.noSuchElement ..
  | _ => exact admits.host (.element failed nofun)

omit admits in
theorem awaitElementOk {directive : String} {l : Locator} {time : Nat} {s t : σ} {element : E}
    (found : Action.awaitElement directive l time s = .ok element t) :
    Wait.element l time s = .ok element t := by
  obtain ⟨answer, u, attempted, found⟩ := bindEnds.mp found
  cases answer with
  | ok _ =>
    cases found
    exact attemptOk attempted
  | error e => cases found

theorem awaitGroup (settings : CheckSettings) (directive : String) (l : Locator) (time : Nat) :
    Raises P
      (Action.awaitGroup (σ := σ) settings directive l time) := by
  refine (elements admits l none _).bind fun outcome => ?_
  cases outcome with
  | ready found => exact .pure _
  | timedOut matched => exact .throw fun _ => admits.noSuchElement ..

theorem toggleValue (requested : String) (selected : Bool) (group : List E) :
    Raises P
      (Action.toggleValue (σ := σ) requested selected group) := by
  induction group with
  | nil => exact .pure _
  | cons first rest ih =>
    have others : Raises P (do
        let _ ← Action.toggleValue (σ := σ) requested selected rest
        return true) := ih.bind fun _ => .pure _
    refine (asks admits .attr).bind fun value => .ite ?_ ih
    refine (asks admits .isSelected).bind fun state => ?_
    exact .ite ((asks admits .click).bind fun _ => others) others

theorem toggle (directive : String) (l : Locator) (group : List E) (selected : Bool)
    {values : List (Deferred String)} (left : Tolerates P (values.flatMap Deferred.references)) :
    Raises P
      (Action.toggle (σ := σ) directive l group selected values) := by
  induction values with
  | nil => exact .pure _
  | cons first rest ih =>
    rw [List.flatMap_cons] at left
    refine (literal left.left).bind fun requested => ?_
    refine (toggleValue admits requested selected group).bind fun _ => .ite (ih left.right) ?_
    exact .throw fun _ => admits.noSuchElement ..

theorem uncheckAll (group : List E) :
    Raises P (Action.uncheckAll (σ := σ) group) := by
  induction group with
  | nil => exact .pure _
  | cons first rest ih =>
    refine (asks admits .isSelected).bind fun _ => .ite ?_ ih
    exact (asks admits .click).bind fun _ => ih

theorem answer (directive : String) (time : Nat) (given : Answer) :
    Raises P (Action.answer (σ := σ) directive time given) := by
  have told {operation : EStateM HostError σ Unit}
      (fails : ∀ {s e t}, operation s = .error e t → (∀ awaited, e ≠ .timeout awaited) →
        e ≠ .noAlert → HostFails e t) :
      Raises P (Check.attempt operation >>= Action.answered directive time) := by
    refine attempt (fun _ => .pure _) (@fun s e t failed => ?_)
    cases e with
    | timeout awaited =>
      rintro _ _ ⟨⟩
      exact admits.noSuchElement ..
    | noAlert =>
      rintro _ _ ⟨⟩
      exact admits.noSuchElement ..
    | _ =>
      rintro _ _ ⟨⟩
      exact admits.host (fails failed nofun nofun)
  cases given with
  | accept => exact told .acceptDialog
  | dismiss => exact told .dismissDialog

theorem carryOut (settings : CheckSettings) (directive : String) (time : Nat) {deed : Deed}
    (left : Tolerates P deed.references) :
    Raises P
      (Action.carryOut (σ := σ) settings directive time deed) := by
  have awaiting {β : Type} {target : Deferred Locator} (left : Tolerates P target.references)
      {act : E → Check σ β} (raises : ∀ e, Raises P (act e)) :
      Raises P (do
        let locator ← Check.ofExcept target.get
        let element ← Action.awaitElement directive locator time
        act element) :=
    (literal left).bind fun l => (awaitElement admits directive l time).bind raises
  have options {target : Deferred Locator} {values : List (Deferred String)}
      (left : Tolerates P (target.references ++ values.flatMap Deferred.references))
      (selected : Bool) : Raises P (do
        let locator ← Check.ofExcept target.get
        let options ← Action.awaitOptions (σ := σ) directive locator time
        Action.toggle directive locator options selected values) := by
    refine (literal left.left).bind fun l => .bind ?_ fun group =>
      toggle admits _ l group _ left.right
    exact (awaitElement admits directive l time).bind fun _ => asks admits .findWithin
  match deed with
  | .click target => exact awaiting left fun _ => asks admits .click
  | .sendKeys target value =>
    exact awaiting left.left fun _ => (literal left.right).bind fun _ => asks admits .sendKeys
  | .clear target .text => exact awaiting left fun _ => asks admits .clear
  | .clear target .checkbox =>
    refine (literal left).bind fun l => ?_
    exact (awaitGroup admits settings directive l time).bind (uncheckAll admits)
  | .check target values =>
    refine (literal left.left).bind fun l => ?_
    refine (awaitGroup admits settings directive l time).bind fun group => ?_
    exact toggle admits _ l group _ left.right
  | .select target values => exact options left true
  | .unselect target values => exact options left false
  | .alert given => exact answer admits directive time given
  | .switchTo .top => exact asks admits .leaveFrames
  | .switchTo (.within locator) =>
    refine (literal left).bind fun l => ?_
    refine (awaitElement admits directive l time).bindGiven fun s element t found => ?_
    intro failure u failed
    obtain ⟨e, rfl, refused⟩ := askError failed
    exact admits.host (.enterFrame (awaitElementOk found) refused)

theorem perform (settings : CheckSettings) {action : Action}
    (left : Tolerates P action.references) :
    Raises P (action.perform (σ := σ) settings) :=
  (emit _).bind fun _ => carryOut admits settings _ _ left

omit admits in
theorem scanned (address : Raises P (Check.ask (Host.currentUrl (σ := σ))))
    (drained : Raises P (Check.ask (Host.drainConsole (σ := σ))))
    (script : ∀ entry t, P (.script entry) t) (status : ∀ code entry t, P (.status code entry) t) :
    Raises P (Run.scanConsole (σ := σ)) := by
  refine address.bind fun url => drained.bind fun entries => ?_
  cases found : Console.scan url entries with
  | none => exact .pure _
  | some failure =>
    obtain ⟨entry, rfl⟩ | ⟨code, entry, rfl⟩ := Console.scanTells found
    · exact .throw (script entry)
    · exact .throw (status code entry)

theorem scanConsole : Raises P (Run.scanConsole (σ := σ)) :=
  scanned (asks admits .currentUrl) (asks admits .drainConsole) admits.script admits.status

omit admits in
theorem visited (settings : CheckSettings) {url : Deferred String}
    (known : Raises P (Check.ofExcept url.get))
    (loads : ∀ address, Raises P (Check.ask (Host.goto (σ := σ) address))) :
    Raises P (Run.visit (σ := σ) settings url) :=
  known.bind fun _ => (emit _).bind fun _ => loads _

theorem visit (settings : CheckSettings) {url : Deferred String}
    (left : Tolerates P url.references) :
    Raises P (Run.visit (σ := σ) settings url) :=
  visited settings (literal left) fun _ => asks admits .goto

theorem follow (settings : CheckSettings) {link : Deferred Locator}
    (left : Tolerates P link.references) :
    Raises P (Run.follow (σ := σ) settings link) := by
  refine (literal left).bind fun l => (emit _).bind fun _ => ?_
  exact (awaitElement admits _ l _).bind fun _ => asks admits .click

end Parts

end Raises

end PageCheck
