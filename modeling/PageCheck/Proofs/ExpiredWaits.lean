import PageCheck.Proofs.GuardCourse
import PageCheck.Proofs.HostErrors
import PageCheck.Proofs.Nesting

/-!
Waits that run out of time. A link, an action or a dialog that is waited for in vain is an element
that was not found, told with the directive and with the time that was spent on it. Checks and
guards take what goes wrong on the page for an answer. So the errors of the in-memory browser that a
run can end with are its breakages, and they are met while a page is opened, a link is followed or
an action is performed.
-/
namespace PageCheck

open Browser (World)

variable {settings : CheckSettings}

inductive Judged : Failure → Prop where
  | noSuchElement (directive locator : String) (timeout : Nat) :
    Judged (.noSuchElement directive locator timeout)
  | elementExists (directive locator : String) (timeout : Nat) :
    Judged (.elementExists directive locator timeout)
  | mismatch (found : Mismatch) : Judged (.mismatch found)
  | mistake {failure : Failure} (configuration : failure.isConfiguration = true) : Judged failure

theorem Judged.notHost {e : HostError} : ¬ Judged (.host e)
  | .mistake configuration => nomatch configuration

theorem Raises.ofSees {α : Type} {P : Failure → World → Prop} {x : Check World α}
    {outcome : World → Except Failure α} (seen : ∀ w, Sees w x (outcome w))
    (fails : ∀ w, Fails (P · w) (outcome w)) : Raises P x := by
  intro w failure t failed
  obtain ⟨told, rfl⟩ : outcome w = .error failure ∧ w = t :=
    resultInInj ((seen w).symm.trans failed)
  exact fails w failure told

theorem Browser.World.comparedFails (w : World) (check : ValueCheck) :
    Fails Judged (w.compared check) := by
  intro failure failed
  unfold compared at failed
  split at failed
  · cases failed
    exact .mistake rfl
  · unfold valuesSeen at failed
    split at failed
    · cases failed
    · unfold ValueCheck.holds at failed
      split at failed
      · cases failed
      · generalize check.test _ = tested at failed
        cases tested <;> cases failed
        exact .mistake rfl

theorem Assertion.verifyJudged (predicates : Predicates) (a : Assertion) :
    Raises (fun failure (_ : World) => Judged failure) (a.verify settings predicates) := by
  have literal (target : Deferred Locator) : Fails Judged target.get :=
    fun _ failed => .mistake (Deferred.getMistake failed)
  unfold Assertion.verify
  refine (Raises.emit _).bind fun _ => ?_
  cases a.demand with
  | present presence =>
    refine (Raises.ofExcept fun _ => literal _).bind fun l => .bind ?_ fun outcome => ?_
    · exact .poll _ (.ofSees (World.lookForElementsSees · l presence.count) fun _ => .ok _)
    · cases outcome with
      | ready found => exact .pure _
      | timedOut matched => exact .throw fun _ => .noSuchElement ..
  | absent presence =>
    refine (Raises.ofExcept fun _ => literal _).bind fun l => .bind ?_ fun outcome => ?_
    · exact .poll _ (.ofSees (World.lookForAbsenceSees · l) fun _ => .ok _)
    · cases outcome with
      | ready found => exact .pure _
      | timedOut matched => exact .throw fun _ => .elementExists ..
  | compare comparison =>
    have made : Fails Judged (ValueCheck.ofComparison predicates comparison) :=
      fun _ failed => .mistake (ValueCheck.ofComparisonMistake failed)
    refine (Raises.ofExcept fun _ => made).bind fun check => .bind ?_ fun outcome => ?_
    · exact .poll _ (.ofSees (World.comparedSees · check) (World.comparedFails · check))
    · match outcome with
      | .ready () => exact .pure _
      | .timedOut (some found) => exact (Raises.emit _).bind fun _ => .throw fun _ => .mismatch _
      | .timedOut none => exact .throw fun _ => .noSuchElement ..

section Waits

variable {σ E : Type} [Host σ E]

inductive HostError.OutOfTime : HostError → Prop where
  | timeout (awaited : String) : OutOfTime (.timeout awaited)
  | noAlert : OutOfTime .noAlert

theorem Breaks.inTime {e : HostError} {w : World} (breaks : Breaks e w) : ¬ e.OutOfTime := by
  rintro ⟨⟩
  · cases breaks with
    | unloadable unloadable => cases unloadable
  · cases breaks with
    | unloadable unloadable => cases unloadable

inductive Deed.AwaitsElement (l : Locator) : Deed → Prop where
  | click : AwaitsElement l (.click (.value l))
  | sendKeys (keys : Deferred String) : AwaitsElement l (.sendKeys (.value l) keys)
  | clear : AwaitsElement l (.clear (.value l) .text)
  | select (values : List (Deferred String)) : AwaitsElement l (.select (.value l) values)
  | unselect (values : List (Deferred String)) : AwaitsElement l (.unselect (.value l) values)
  | switchTo : AwaitsElement l (.switchTo (.within (.value l)))

inductive Deed.AwaitsGroup (l : Locator) : Deed → Prop where
  | clear : AwaitsGroup l (.clear (.value l) .checkbox)
  | check (values : List (Deferred String)) : AwaitsGroup l (.check (.value l) values)

def Answer.operation : Answer → Nat → EStateM HostError σ Unit
  | .accept => Host.acceptDialog
  | .dismiss => Host.dismissDialog

inductive Expires (settings : CheckSettings) (time : Nat) (s : σ) : Deed → String → σ → Prop where
  | element {deed l awaited t} (awaits : Deed.AwaitsElement l deed)
      (expired : Wait.element l time s = .error (.timeout awaited) t) :
    Expires settings time s deed l.display t
  | group {deed l matched t} (awaits : Deed.AwaitsGroup l deed)
      (expired : Wait.elements l none { timeout := time, interval := settings.interval } s =
        .ok (.timedOut matched) t) :
    Expires settings time s deed l.display t
  | dialog {given : Answer} {e t} (expired : given.operation time s = .error e t)
      (late : e.OutOfTime) :
    Expires settings time s (.alert given) "native dialog" t

theorem Check.attemptFails {α : Type} {operation : EStateM HostError σ α} {s t : σ}
    {e : HostError} (failed : operation s = .error e t) :
    Check.attempt operation s = .ok (.error e) t := by
  unfold Check.attempt
  rw [failed]

theorem Action.awaitRefused (directive : String) {l : Locator} {time : Nat} {s t : σ}
    {e : HostError} (refused : Wait.element l time s = .error e t) :
    Action.awaitElement directive l time s =
      .error (notFound directive l.display time e) t :=
  bindOfOk (Check.attemptFails refused) _

theorem Action.awaitGroupExpires (directive : String) {l : Locator} {time matched : Nat} {s t : σ}
    (expired : Wait.elements l none { timeout := time, interval := settings.interval } s =
      .ok (.timedOut matched) t) :
    Action.awaitGroup settings directive l time s =
      .error (.noSuchElement directive l.display time) t :=
  bindOfOk expired _

theorem Run.followExpires {awaited : String} {l : Locator} {s t : σ}
    (expired : Wait.element l settings.timeout (Clock.emit (.following l) s) =
      .error (.timeout awaited) t) :
    Run.follow settings (.value l) s =
      .error (.noSuchElement "link" l.display settings.timeout) t :=
  bindOfError (Action.awaitRefused _ expired) _

theorem Action.answerExpires (directive : String) {given : Answer} {time : Nat} {e : HostError}
    {s t : σ} (expired : given.operation time s = .error e t) (late : e.OutOfTime) :
    Action.answer directive time given s =
      .error (.noSuchElement directive "native dialog" time) t := by
  have answered (operation : EStateM HostError σ Unit) (failed : operation s = .error e t) :
      (Check.attempt operation >>= answered directive time) s =
        .error (.noSuchElement directive "native dialog" time) t := by
    rw [bindOfOk (Check.attemptFails failed)]
    cases late <;> rfl
  cases given with
  | accept => exact answered _ expired
  | dismiss => exact answered _ expired

theorem Action.literally {α β : Type} (literal : α) {f : α → Check σ β} {s : σ}
    {result : EStateM.Result Failure σ β} (ends : f literal s = result) :
    (Check.ofExcept (Deferred.value literal).get >>= f) s = result :=
  (bindOfOk rfl f).trans ends

theorem Action.carryOutRefused {directive : String} {time : Nat} {deed : Deed} {l : Locator}
    {e : HostError} {s t : σ} (awaits : deed.AwaitsElement l)
    (refused : Wait.element l time s = .error e t) :
    Action.carryOut settings directive time deed s =
      .error (notFound directive l.display time e) t := by
  have waited := awaitRefused directive refused
  cases awaits with
  | click => exact literally l (bindOfError waited _)
  | sendKeys keys => exact literally l (bindOfError waited _)
  | clear => exact literally l (bindOfError waited _)
  | select values => exact literally l (bindOfError (bindOfError waited _) _)
  | unselect values => exact literally l (bindOfError (bindOfError waited _) _)
  | switchTo => exact literally l (bindOfError waited _)

theorem Action.carryOutExpires {directive what : String} {time : Nat} {deed : Deed} {s t : σ}
    (expires : Expires settings time s deed what t) :
    Action.carryOut settings directive time deed s =
      .error (.noSuchElement directive what time) t := by
  cases expires with
  | element awaits expired => exact carryOutRefused awaits expired
  | @group _ l _ _ awaits expired =>
    have waited := awaitGroupExpires directive expired
    cases awaits with
    | clear => exact literally l (bindOfError waited _)
    | check values => exact literally l (bindOfError waited _)
  | dialog expired late => exact answerExpires directive expired late

theorem Action.performExpires {action : Action} {what : String} {s t : σ}
    (expires : Expires settings (action.timeout.getD settings.timeout)
      (Clock.emit (.performing action.directive) s) action.deed what t) :
    action.perform settings s = .error
      (.noSuchElement action.directive what (action.timeout.getD settings.timeout)) t :=
  (bindOfOk rfl _).trans (carryOutExpires expires)

end Waits

namespace Run

variable {context : RunContext}

inductive Broken (context : RunContext) (body : StepBody) (e : HostError) (after : World) :
    Prop where
  | visiting {url w} (given : body.url = some url)
      (failed : visit context.settings url w = .error (.host e) after)
      (unloadable : Unloadable e after)
  | following {link w} (given : body.link = some link)
      (failed : follow context.settings link w = .error (.host e) after)
      (breaks : Breaks e after)
  | acting {action w} (given : action ∈ body.actions)
      (failed : Action.perform context.settings action w = .error (.host e) after)
      (breaks : Breaks e after)

theorem breaksAdmits : Admits fun failure w => ∀ e, failure = .host e → Breaks e w where
  host fails := by
    rintro e ⟨⟩
    exact World.hostFailsBreaks fails
  noSuchElement _ _ _ _ := nofun
  elementExists _ _ _ _ := nofun
  mismatch _ _ := nofun
  script _ _ := nofun
  status _ _ _ := nofun
  unknownPredicate _ _ := nofun
  manyValues _ _ := nofun

theorem visitRaises (url : Deferred String) :
    Raises (fun failure w => ∀ e, failure = .host e → Unloadable e w)
      (visit context.settings url) := by
  refine .visited _ (.ofExcept fun _ failure failed => ?_) fun address => ?_
  · rintro e rfl
    cases Deferred.getMistake failed
  · refine .ask fun w e v failed other same => ?_
    cases same
    exact World.gotoRaises _ w e v failed

theorem scanRaises : Raises (fun failure (_ : World) => ∀ e, failure ≠ .host e) scanConsole :=
  .scanned (.ask nofun) (.ask nofun) (fun _ _ => nofun) fun _ _ _ => nofun

theorem FailsAt.broken {body : StepBody} {e : HostError} {after : World}
    (part : FailsAt context body (.host e) after) : Broken context body e after := by
  have breaks := part.admitted breaksAdmits (fun _ _ _ => nofun) e rfl
  cases part with
  | guard given failed => cases Guard.evaluateMistake (answerOfResult failed)
  | scan failed => exact (scanRaises _ _ _ failed e rfl).elim
  | visit given failed => exact .visiting given failed (visitRaises _ _ _ _ failed e rfl)
  | follow given failed => exact .following given failed breaks
  | act given failed => exact .acting given failed breaks
  | check given failed => exact (Judged.notHost (Assertion.verifyJudged _ _ _ _ _ failed)).elim

mutual

theorem ArisesIn.fromPart {σ E : Type} [Host σ E] {first : Step} {s t : σ} {body : StepBody}
    {failure : Failure} : ArisesIn (context.telling true) first s body failure t →
    Unfit failure ∨ FailsAt context body failure t
  | .resolving missing => .inl (StepBody.resolveFails _ _ _ missing)
  | .working found failed => by
    rw [ownWorkEither] at failed
    exact .inr (ownWorkFailsAt _ _ _ failed)
  | .inside _ _ inner => inner.fromPart

theorem ArisesAmong.fromPart {σ E : Type} [Host σ E] {list : Scenario} {s t : σ} {body : StepBody}
    {failure : Failure} : ArisesAmong (context.telling true) list s body failure t →
    Unfit failure ∨ FailsAt context body failure t
  | .here inner => inner.fromPart
  | .later _ inner => inner.fromPart

end

theorem arisesInRun {list : Scenario} {w after : World} {failure : Failure}
    (failed : scenario context list w = .error failure after) :
    ∃ body, ArisesAmong (context.telling true) list w body failure.root after := by
  cases debug : context.settings.debug with
  | false =>
    obtain ⟨body, cause, rfl, bare, source⟩ := toldOnPage debug failed
    refine ⟨body, ?_⟩
    show ArisesAmong _ _ _ _ cause.root _
    rwa [Failure.rootOfBare bare]
  | true =>
    have twin := scenarioTwin context list w
    rw [tellingOwn debug, failed] at twin
    generalize scenario (context.telling false) list w = told at twin
    cases twin with
    | told bare source =>
      rw [Failure.rootOfBare bare, tellingOwn debug]
      exact ⟨_, source⟩

theorem readableAdmits :
    AdmitsRun World fun failure => ∀ source reason, failure.root ≠ .unreadable source reason where
  host _ _ _ := nofun
  noSuchElement _ _ _ _ _ _ := nofun
  elementExists _ _ _ _ _ _ := nofun
  mismatch _ _ _ _ := nofun
  script _ _ _ _ := nofun
  status _ _ _ _ _ := nofun
  unknownPredicate _ _ _ _ := nofun
  manyValues _ _ _ _ := nofun
  unfit unfit _ _ := by cases unfit <;> exact nofun
  reported holds := holds

/-- An error of the browser in a run is a breakage that navigation or an action meets. A wait that
expires is told as an element that its directive did not find in its time. -/
theorem expiredWaitsNotFound (context : RunContext) (list : Scenario) (w : World) :
    (∀ failure after, scenario context list w = .error failure after →
      (∀ source reason, failure.root ≠ .unreadable source reason) ∧
      ∀ e, failure.root = .host e → ¬ e.OutOfTime ∧
        ∃ body, ArisesAmong (context.telling true) list w body (.host e) after ∧
          Broken context body e after) ∧
    (∀ e after, (∀ a, Assertion.verify context.settings context.predicates a w ≠
        .error (.host e) after) ∧
      ∀ g, Guard.evaluate context.settings context.predicates g w ≠ .error (.host e) after) ∧
    (∀ l awaited after, Wait.element l context.settings.timeout w =
        .error (.timeout awaited) after →
      follow context.settings (.value l) w =
        .error (.noSuchElement "link" l.display context.settings.timeout) after) ∧
    ∀ (action : Action) what after,
      Expires context.settings (action.timeout.getD context.settings.timeout) w action.deed what
        after →
      action.perform context.settings w = .error (.noSuchElement action.directive what
        (action.timeout.getD context.settings.timeout)) after := by
  refine ⟨fun failure after failed => ?_, fun e after => ⟨fun a failed => ?_, fun g failed => ?_⟩,
    fun l awaited after => followExpires, fun action what after => Action.performExpires⟩
  · refine ⟨readableAdmits.scenario list w failure after failed, fun e root => ?_⟩
    obtain ⟨body, source⟩ := arisesInRun failed
    rw [root] at source
    obtain unfit | part := source.fromPart
    · cases unfit
    · exact ⟨(part.admitted breaksAdmits (fun _ _ _ => nofun) e rfl).inTime, body, source,
        part.broken⟩
  · exact Judged.notHost (Assertion.verifyJudged _ _ _ _ _ failed)
  · cases Guard.evaluateMistake (answerOfResult failed)

def hurried : RunContext :=
  { settings := { CheckSettings.default with timeout := 20 }, predicates := [], mapping := [] }

def clicked : Action := { deed := .click (.value greeting), timeout := some 10 }

theorem expiredWaitsWhenGreetingIsGone :
    Wait.element greeting 20 (greetingPage.pass 60) =
      .error (.timeout greeting.display) ((greetingPage.pass 60).pass 20) ∧
    follow hurried.settings (.value greeting) (greetingPage.pass 60) =
      .error (.noSuchElement "link" greeting.display 20) ((greetingPage.pass 60).pass 20) ∧
    Expires hurried.settings 10 (greetingPage.pass 60) clicked.deed greeting.display
      ((greetingPage.pass 60).pass 10) ∧
    clicked.perform hurried.settings (greetingPage.pass 60) =
      .error (.noSuchElement "click" greeting.display 10) ((greetingPage.pass 60).pass 10) ∧
    scenario hurried [.visit (.value "http://b/")] (greetingPage.pass 60) =
      .error (.reported (pageContext (greetingPage.pass 60) (Step.visit (.value "http://b/")).body)
        (.host (.command "no page at http://b/"))) (greetingPage.pass 60) ∧
    ∃ body, Broken hurried body (.command "no page at http://b/") (greetingPage.pass 60) := by
  have waited : Wait.element greeting 20 (greetingPage.pass 60) =
    .error (.timeout greeting.display) ((greetingPage.pass 60).pass 20) := rfl
  have waitedLess : Wait.element greeting 10 (greetingPage.pass 60) =
    .error (.timeout greeting.display) ((greetingPage.pass 60).pass 10) := rfl
  have expires : Expires hurried.settings 10 (greetingPage.pass 60) clicked.deed greeting.display
    ((greetingPage.pass 60).pass 10) := .element .click waitedLess
  have failed : scenario hurried [.visit (.value "http://b/")] (greetingPage.pass 60) =
    .error (.reported (pageContext (greetingPage.pass 60) (Step.visit (.value "http://b/")).body)
      (.host (.command "no page at http://b/"))) (greetingPage.pass 60) := rfl
  obtain ⟨runs, -, follows, performs⟩ :=
    expiredWaitsNotFound hurried [.visit (.value "http://b/")] (greetingPage.pass 60)
  obtain ⟨-, body, -, broken⟩ := (runs _ _ failed).2 _ rfl
  exact ⟨waited, follows _ _ _ waited, expires, performs _ _ _ expires, failed, body, broken⟩

end Run

end PageCheck
