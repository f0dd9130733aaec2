import PageCheck.Proofs.Alike
import PageCheck.Guard.Evaluate
import PageCheck.Report

/-!
The interpreter knows its host by the host's operations only. Where the operations of two hosts
that look at the page are alike, so is everything that is made of them: polling, waiting, reading
values, verifying assertions, evaluating guards and reporting failures.
-/
namespace PageCheck

variable {σ τ E : Type} [Host σ E] [Host τ E]

structure Looks (R : σ → τ → Prop) : Prop where
  now {s t} : R s t → Clock.now s = Clock.now t
  sleep (time : Nat) {s t} : R s t → R (Clock.sleep time s) (Clock.sleep time t)
  emit (event : Event) {s t} : R s t → R (Clock.emit event s) (Clock.emit event t)
  currentUrl : Alike R (Host.currentUrl (σ := σ)) (Host.currentUrl (σ := τ))
  outerHtml : Alike R (Host.outerHtml (σ := σ)) (Host.outerHtml (σ := τ))
  findAll (l : Locator) : Alike R (Host.findAll (σ := σ) l) (Host.findAll (σ := τ) l)
  findWithin (e : E) (l : Locator) :
    Alike R (Host.findWithin (σ := σ) e l) (Host.findWithin (σ := τ) e l)
  isDisplayed (e : E) : Alike R (Host.isDisplayed (σ := σ) e) (Host.isDisplayed (σ := τ) e)
  tagName (e : E) : Alike R (Host.tagName (σ := σ) e) (Host.tagName (σ := τ) e)
  attr (e : E) (name : String) : Alike R (Host.attr (σ := σ) e name) (Host.attr (σ := τ) e name)
  text (e : E) : Alike R (Host.text (σ := σ) e) (Host.text (σ := τ) e)
  isSelected (e : E) : Alike R (Host.isSelected (σ := σ) e) (Host.isSelected (σ := τ) e)

namespace Looks

variable {R : σ → τ → Prop} {α ω : Type}

theorem checkNow (h : Looks R) : Alike R (Check.now (σ := σ)) (Check.now (σ := τ)) := by
  intro s t related
  have same := h.now related
  show SameResult R (.ok (Clock.now s) s) (.ok (Clock.now t) t)
  rw [same]
  exact .ok _ related

theorem checkSleep (h : Looks R) (time : Nat) :
    Alike R (Check.sleep (σ := σ) time) (Check.sleep (σ := τ) time) :=
  fun _ _ related => .ok () (h.sleep time related)

theorem checkEmit (h : Looks R) (event : Event) :
    Alike R (Check.emit (σ := σ) event) (Check.emit (σ := τ) event) :=
  fun _ _ related => .ok () (h.emit event related)

theorem expire (h : Looks R) (made : Nat) (observed : ω) :
    Alike R (Poller.expire (σ := σ) (α := α) made observed)
      (Poller.expire (σ := τ) (α := α) made observed) :=
  (h.checkEmit _).bind fun _ => .pure _

theorem attempts (h : Looks R) (p : Poller) (deadline : Nat) {look : Check σ (Attempt α ω)}
    {look' : Check τ (Attempt α ω)} (same : Alike R look look') (limit made : Nat) :
    Alike R (p.attempts deadline look limit made) (p.attempts deadline look' limit made) := by
  induction limit generalizing made with
  | zero =>
    refine same.bind fun outcome => ?_
    cases outcome with
    | done value => exact .pure _
    | again observed => exact h.expire _ observed
  | succ limit ih =>
    refine same.bind fun outcome => ?_
    cases outcome with
    | done value => exact .pure _
    | again observed =>
      refine h.checkNow.bind fun now => .ite (fun _ => h.expire _ observed) fun _ => ?_
      exact (h.checkSleep _).bind fun _ => ih _

theorem poll (h : Looks R) (p : Poller) {look : Check σ (Attempt α ω)}
    {look' : Check τ (Attempt α ω)} (same : Alike R look look') :
    Alike R (p.run look) (p.run look') :=
  h.checkNow.bind fun _ => h.attempts p _ same _ _

theorem lookForElements (h : Looks R) (l : Locator) (count : Option UInt64) :
    Alike R (Wait.lookForElements (σ := σ) l count) (Wait.lookForElements (σ := τ) l count) := by
  refine (h.findAll l).attempt.bind fun found => ?_
  match found with
  | .error e => exact .ite (fun _ => .pure _) fun _ => .throw _
  | .ok [] => exact .pure _
  | .ok (first :: rest) =>
    refine .ite (fun _ => .pure _) fun _ => (h.isDisplayed first).attempt.bind fun shown => ?_
    match shown with
    | .ok true => exact .pure _
    | .ok false => exact .pure _
    | .error e => exact .ite (fun _ => .pure _) fun _ => .throw _

theorem elements (h : Looks R) (l : Locator) (count : Option UInt64) (p : Poller) :
    Alike R (Wait.elements (σ := σ) l count p) (Wait.elements (σ := τ) l count p) :=
  h.poll p (h.lookForElements l count)

theorem countDisplayed (h : Looks R) (found : List E) :
    Alike R (Wait.countDisplayed (σ := σ) found) (Wait.countDisplayed (σ := τ) found) := by
  induction found with
  | nil => exact .pure _
  | cons first rest ih =>
    have others (here : Nat) : Alike R (do return here + (← Wait.countDisplayed (σ := σ) rest))
        (do return here + (← Wait.countDisplayed (σ := τ) rest)) := ih.bind fun _ => .pure _
    refine (h.isDisplayed first).attempt.bind fun shown => ?_
    match shown with
    | .ok true => exact others 1
    | .ok false => exact others 0
    | .error e => exact .ite (fun _ => others 0) fun _ => .throw _

theorem lookForAbsence (h : Looks R) (l : Locator) :
    Alike R (Wait.lookForAbsence (σ := σ) l) (Wait.lookForAbsence (σ := τ) l) := by
  refine (h.findAll l).attempt.bind fun found => ?_
  cases found with
  | error e => exact .ite (fun _ => .pure _) fun _ => .throw _
  | ok found =>
    exact (h.countDisplayed found).bind fun _ => .ite (fun _ => .pure _) fun _ => .pure _

theorem absence (h : Looks R) (l : Locator) (p : Poller) :
    Alike R (Wait.absence (σ := σ) l p) (Wait.absence (σ := τ) l p) :=
  h.poll p (h.lookForAbsence l)

theorem valueOf (h : Looks R) (e : E) :
    Alike R (Extract.valueOf (σ := σ) e) (Extract.valueOf (σ := τ) e) :=
  (h.attr e "value").ask.bind fun _ => .pure _

theorem detect (h : Looks R) (e : E) :
    Alike R (Extract.detect (σ := σ) e) (Extract.detect (σ := τ) e) := by
  refine (h.tagName e).ask.bind fun tag => .ite (fun _ => .pure _) fun _ => ?_
  refine (h.attr e "type").ask.bind fun kind => .ite (fun _ => .pure _) fun _ => ?_
  exact .ite (fun _ => .pure _) fun _ => .ite (fun _ => .pure _) fun _ => .pure _

theorem selectedValues (h : Looks R) (found : List E) :
    Alike R (Extract.selectedValues (σ := σ) found) (Extract.selectedValues (σ := τ) found) := by
  induction found with
  | nil => exact .pure _
  | cons first rest ih =>
    have others (here : List String) :
        Alike R (do return here ++ (← Extract.selectedValues (σ := σ) rest))
          (do return here ++ (← Extract.selectedValues (σ := τ) rest)) := ih.bind fun _ => .pure _
    refine (h.isSelected first).ask.bind fun selected => .ite (fun _ => ?_) fun _ => others []
    exact ((h.valueOf first).map List.singleton).bind others

theorem selectValues (h : Looks R) (found : List E) :
    Alike R (Extract.selectValues (σ := σ) found) (Extract.selectValues (σ := τ) found) := by
  induction found with
  | nil => exact .pure _
  | cons first rest ih =>
    refine (h.findWithin first _).ask.bind fun options => ?_
    exact (h.selectedValues options).bind fun _ => ih.bind fun _ => .pure _

omit [Host σ E] [Host τ E] in
theorem eachValue {read : E → Check σ String} {read' : E → Check τ String}
    (same : ∀ e, Alike R (read e) (read' e)) (found : List E) :
    Alike R (Extract.eachValue read found) (Extract.eachValue read' found) := by
  induction found with
  | nil => exact .pure _
  | cons first rest ih => exact (same first).bind fun _ => ih.bind fun _ => .pure _

theorem readingOf (h : Looks R) (kind : Option ValueKind) (found : List E) :
    Alike R (Extract.readingOf (σ := σ) kind found) (Extract.readingOf (σ := τ) kind found) := by
  match kind, found with
  | some (.attr name), _ => exact .pure _
  | some .select, _ => exact .pure _
  | some .checkbox, _ => exact .pure _
  | some .radio, _ => exact .pure _
  | none, first :: _ => exact h.detect first
  | none, [] => exact .pure _

theorem valuesBy (h : Looks R) (reading : Reading) (found : List E) :
    Alike R (Extract.valuesBy (σ := σ) reading found)
      (Extract.valuesBy (σ := τ) reading found) := by
  cases reading with
  | attr name => exact eachValue (fun e => (h.attr e name).ask.bind fun _ => .pure _) found
  | select => exact h.selectValues found
  | checkbox => exact h.selectedValues found
  | radio => exact h.selectedValues found
  | input => exact eachValue h.valueOf found
  | innerText => exact eachValue (fun e => (h.text e).ask) found
  | html => exact eachValue (fun e => (h.text e).ask) found
  | url => exact eachValue (fun e => (h.text e).ask) found

theorem fromElements (h : Looks R) (kind : Option ValueKind) (found : List E) :
    Alike R (Extract.fromElements (σ := σ) kind found)
      (Extract.fromElements (σ := τ) kind found) :=
  (h.readingOf kind found).bind fun _ => (h.valuesBy _ found).bind fun _ => .pure _

theorem fromTarget (h : Looks R) (target : Target) (kind : Option ValueKind) :
    Alike R (Extract.fromTarget (σ := σ) target kind)
      (Extract.fromTarget (σ := τ) target kind) := by
  cases target with
  | html => exact h.outerHtml.ask.bind fun _ => .pure _
  | url => exact h.currentUrl.ask.bind fun _ => .pure _
  | element locator =>
    refine (Alike.ofExcept locator.get).bind fun locator => ?_
    refine (h.findAll locator).ask.bind fun found => ?_
    cases found with
    | nil => exact .pure _
    | cons first rest => exact (h.fromElements kind _).map some

theorem sample (h : Looks R) (check : ValueCheck) :
    Alike R (check.sample (σ := σ)) (check.sample (σ := τ)) := by
  refine (h.fromTarget check.target check.kind).tryCatch fun failure => ?_
  cases failure with
  | host e => exact .ite (fun _ => .pure _) fun _ => .throw _
  | _ => exact .throw _

theorem look (h : Looks R) (check : ValueCheck) :
    Alike R (check.look (σ := σ)) (check.look (σ := τ)) := by
  refine (h.sample check).bind fun found => ?_
  cases found with
  | none => exact .pure _
  | some found => exact (Alike.ofExcept _).bind fun _ => .ite (fun _ => .pure _) fun _ => .pure _

theorem verifyValues (h : Looks R) (check : ValueCheck) (p : Poller) :
    Alike R (check.verify (σ := σ) p) (check.verify (σ := τ) p) := by
  refine (h.poll p (h.look check)).bind fun outcome => ?_
  match outcome with
  | .ready () => exact .pure _
  | .timedOut (some found) => exact (h.checkEmit _).bind fun _ => .throw _
  | .timedOut none => exact .throw _

theorem holdsNow (h : Looks R) (check : ValueCheck) :
    Alike R (check.holdsNow (σ := σ)) (check.holdsNow (σ := τ)) := by
  refine (h.sample check).bind fun found => ?_
  cases found with
  | none => exact .pure _
  | some found => exact .ofExcept _

theorem verifyPresent (h : Looks R) (presence : Presence) (p : Poller) :
    Alike R (Assertion.verifyPresent (σ := σ) presence p)
      (Assertion.verifyPresent (σ := τ) presence p) := by
  refine (Alike.ofExcept presence.target.get).bind fun locator => ?_
  refine (h.elements locator presence.count p).bind fun outcome => ?_
  cases outcome with
  | ready found => exact .pure _
  | timedOut matched => exact .throw _

theorem verifyAbsent (h : Looks R) (presence : Presence) (p : Poller) :
    Alike R (Assertion.verifyAbsent (σ := σ) presence p)
      (Assertion.verifyAbsent (σ := τ) presence p) := by
  refine (Alike.ofExcept presence.target.get).bind fun locator => ?_
  refine (h.absence locator p).bind fun outcome => ?_
  cases outcome with
  | ready found => exact .pure _
  | timedOut matched => exact .throw _

theorem verify (h : Looks R) (settings : CheckSettings) (predicates : Predicates)
    (a : Assertion) :
    Alike R (a.verify (σ := σ) settings predicates) (a.verify (σ := τ) settings predicates) := by
  unfold Assertion.verify
  refine (h.checkEmit _).bind fun _ => ?_
  cases a.demand with
  | present presence => exact h.verifyPresent presence _
  | absent presence => exact h.verifyAbsent presence _
  | compare comparison => exact (Alike.ofExcept _).bind fun check => h.verifyValues check _

theorem located (h : Looks R) (presence : Presence) (p : Poller) :
    Alike R (Assertion.located (σ := σ) presence p) (Assertion.located (σ := τ) presence p) := by
  unfold Assertion.located Assertion.await
  refine .bind ((Alike.ofExcept _).bind fun l => h.elements l _ p) fun outcome => ?_
  cases outcome with
  | ready found => exact .pure _
  | timedOut matched => exact .pure _

theorem leniently (h : Looks R) (directive : String) {question : Check σ Bool}
    {question' : Check τ Bool} (same : Alike R question question') :
    Alike R (Assertion.leniently directive question)
      (Assertion.leniently directive question') := by
  refine same.tryCatch fun failure => .ite (fun _ => .throw _) fun _ => ?_
  exact (h.checkEmit _).bind fun _ => .pure _

theorem holds (h : Looks R) (settings : CheckSettings) (predicates : Predicates)
    (a : Assertion) :
    Alike R (a.holds (σ := σ) settings predicates) (a.holds (σ := τ) settings predicates) := by
  unfold Assertion.holds
  cases a.demand with
  | present presence => exact h.leniently _ (h.located presence _)
  | absent presence => exact h.leniently _ ((h.located presence _).map not)
  | compare comparison =>
    exact (Alike.ofExcept _).bind fun check => h.leniently _ (h.holdsNow check)

theorem condition (h : Looks R) (settings : CheckSettings) (predicates : Predicates)
    (c : Condition) :
    Alike R (Guard.condition (σ := σ) settings predicates c)
      (Guard.condition (σ := τ) settings predicates c) := by
  cases c with
  | flag value => exact .ofExcept _
  | assertion a => exact h.holds settings predicates a

theorem anyOf (h : Looks R) (settings : CheckSettings) (predicates : Predicates)
    (group : List Condition) :
    Alike R (Guard.anyOf (σ := σ) settings predicates group)
      (Guard.anyOf (σ := τ) settings predicates group) := by
  induction group with
  | nil => exact .pure _
  | cons first rest ih =>
    exact (h.condition settings predicates first).bind fun _ => .ite (fun _ => .pure _) fun _ => ih

theorem allOf (h : Looks R) (settings : CheckSettings) (predicates : Predicates) (index : Nat)
    (g : Guard) :
    Alike R (Guard.allOf (σ := σ) settings predicates index g)
      (Guard.allOf (σ := τ) settings predicates index g) := by
  induction g generalizing index with
  | nil => exact .pure _
  | cons group rest ih =>
    refine (h.anyOf settings predicates group).bind fun _ => .ite (fun _ => ih _) fun _ => ?_
    exact (h.checkEmit _).bind fun _ => .pure _

theorem evaluate (h : Looks R) (settings : CheckSettings) (predicates : Predicates) (g : Guard) :
    Alike R (g.evaluate (σ := σ) settings predicates) (g.evaluate (σ := τ) settings predicates) :=
  h.allOf settings predicates 0 g

theorem textOr (h : Looks R) (warning : String → Event) {x : EStateM HostError σ String}
    {y : EStateM HostError τ String} (same : Alike R x y) :
    Alike R (Report.textOr warning x) (Report.textOr warning y) := by
  refine same.attempt.bind fun outcome => ?_
  cases outcome with
  | ok text => exact .pure _
  | error e => exact (h.checkEmit _).bind fun _ => .pure _

theorem wrap (h : Looks R) (debug : Bool) (body : StepBody) (failure : Failure) :
    Alike R (Report.wrap (σ := σ) debug body failure)
      (Report.wrap (σ := τ) debug body failure) := by
  refine .ite (fun _ => .pure _) fun _ => ?_
  refine (h.textOr _ h.currentUrl).bind fun _ => (h.textOr _ h.outerHtml).bind fun _ => .pure _

theorem within (h : Looks R) (debug : Bool) (body : StepBody) {part : Check σ α}
    {part' : Check τ α} (same : Alike R part part') :
    Alike R (Report.within debug body part) (Report.within debug body part') :=
  same.tryCatch fun failure => (h.wrap debug body failure).bind fun _ => .throw _

end Looks

end PageCheck
