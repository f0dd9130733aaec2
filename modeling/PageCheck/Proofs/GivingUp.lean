import PageCheck.Proofs.ExpiredWaits

/-!
Actions that give up waiting. An action waits for its target before it changes anything, and only
time passes while it waits. So all but the clock is as it was when an action tells that its target
was not found. A requested value that no member of a group has is told apart from that.
-/
namespace PageCheck

open Browser (World Handle Operation)

namespace Browser.World

variable {α : Type} {w v : World} {l : Locator} {time : Nat} {e : HostError}

structure Idles (question : Operation (Option α)) : Prop where
  asked {w v : World} (nothing : question w = .ok none v) : v = w
  refused {w v : World} {e : HostError} (failed : question w = .error e v) : v = w

theorem awaitFails {question : Operation (Option α)} (idles : Idles question) {expired : HostError}
    {ticks : Nat} (failed : await question expired ticks w = .error e v) :
    ∃ elapsed, v = w.pass elapsed := by
  induction ticks generalizing w with
  | zero =>
    rw [await] at failed
    obtain refused | ⟨answer, u, asked, next⟩ := bindFails.mp failed
    · exact ⟨0, idles.refused refused⟩
    · cases answer with
      | none =>
        cases next
        exact ⟨0, idles.asked asked⟩
      | some found => cases next
  | succ ticks ih =>
    rw [await] at failed
    obtain refused | ⟨answer, u, asked, next⟩ := bindFails.mp failed
    · exact ⟨0, idles.refused refused⟩
    · cases answer with
      | none =>
        obtain rfl := idles.asked asked
        obtain ⟨elapsed, rfl⟩ := ih next
        exact ⟨tick + elapsed, Poller.passTwice u tick elapsed⟩
      | some found => cases next

theorem locatingIdles (l : Locator) : Idles (List.head? <$> findAll l) where
  asked {w v} nothing := (EStateM.Result.ok.inj nothing).2.symm
  refused failed := by cases failed

theorem readFails {view : Node → α} {h : Handle} (failed : read h view w = .error e v) : v = w := by
  unfold read lookAt at failed
  split at failed
  · cases failed
  · cases failed
    rfl

theorem showingIdles (h : Handle) :
    Idles ((fun displayed => if displayed then some h else none) <$> isDisplayed h) where
  asked nothing := (shownOk nothing).1
  refused failed := by
    rw [map_eq_pure_bind] at failed
    obtain failed | ⟨displayed, u, ended, failed⟩ := bindFails.mp failed
    · exact readFails failed
    · cases failed

theorem answeringIdles (accepted : Bool) : Idles (answerOpen accepted) where
  asked nothing := by
    unfold answerOpen at nothing
    split at nothing
    · cases nothing
      rfl
    · cases nothing
  refused failed := by
    unfold answerOpen at failed
    split at failed <;> cases failed

theorem elementFails (failed : (Wait.element l time : Operation Handle) w = .error e v) :
    ∃ elapsed, v = w.pass elapsed := by
  obtain failed | ⟨h, u, located, failed⟩ := bindFails.mp failed
  · exact awaitFails (locatingIdles l) failed
  · obtain ⟨elapsed, rfl, -⟩ := awaitOk (fun asked => (EStateM.Result.ok.inj asked).2.symm) located
    obtain ⟨later, rfl⟩ := awaitFails (showingIdles h) failed
    exact ⟨elapsed + later, Poller.passTwice w elapsed later⟩

theorem elementsTimedOut {p : Poller} {matched : Nat}
    (ended : Wait.elements l none p w = .ok (.timedOut matched) v) :
    ∃ elapsed, v = w.pass elapsed := by
  obtain ⟨elapsed, -, last⟩ := p.runLast (fun w => w.lookForElementsSees l none) w
  have both : resultIn (.ok (Polled.timedOut matched)) v = _ := ended.symm.trans last
  exact ⟨elapsed, (resultInInj both).2⟩

theorem elementsNeverFail {p : Poller} {failure : Failure} :
    (Wait.elements l none p : Check World _) w ≠ .error failure v := by
  intro failed
  obtain ⟨elapsed, -, last⟩ := p.runLast (fun w => w.lookForElementsSees l none) w
  have both : resultIn (.error failure) v = _ := failed.symm.trans last
  cases (resultInInj both).1

end Browser.World

theorem Expires.pass {settings : CheckSettings} {time : Nat} {w v : World} {deed : Deed}
    {what : String} (expires : Expires settings time w deed what v) :
    ∃ elapsed, v = w.pass elapsed := by
  cases expires with
  | element _ expired => exact World.elementFails expired
  | group _ expired => exact World.elementsTimedOut expired
  | @dialog given e _ expired _ =>
    cases given with
    | accept => exact World.awaitFails (World.answeringIdles true) expired
    | dismiss => exact World.awaitFails (World.answeringIdles false) expired

def Deed.awaited : Deed → Option String
  | .click (.value l) => some l.display
  | .sendKeys (.value l) _ => some l.display
  | .clear (.value l) _ => some l.display
  | .check (.value l) _ => some l.display
  | .select (.value l) _ => some l.display
  | .unselect (.value l) _ => some l.display
  | .alert _ => some "native dialog"
  | .switchTo (.within (.value l)) => some l.display
  | _ => none

inductive Deed.Lacks : Deed → String → Prop where
  | check {l : Locator} {values value} (listed : .value value ∈ values) :
    Lacks (.check (.value l) values) (l.display ++ " with value `" ++ value ++ "`")
  | select {l : Locator} {values value} (listed : .value value ∈ values) :
    Lacks (.select (.value l) values) (l.display ++ " with value `" ++ value ++ "`")
  | unselect {l : Locator} {values value} (listed : .value value ∈ values) :
    Lacks (.unselect (.value l) values) (l.display ++ " with value `" ++ value ++ "`")

theorem Deed.Lacks.notAwaited {deed : Deed} {what : String} (lacks : deed.Lacks what) :
    deed.awaited ≠ some what := by
  have longer (l : Locator) (value : String) :
      l.display ≠ l.display ++ " with value `" ++ value ++ "`" := by
    intro same
    have lengths := congrArg String.length same
    simp only [String.length_append] at lengths
    have opening : " with value `".length = 13 := rfl
    omega
  cases lacks with
  | check _ => exact fun same => longer _ _ (Option.some.inj same)
  | select _ => exact fun same => longer _ _ (Option.some.inj same)
  | unselect _ => exact fun same => longer _ _ (Option.some.inj same)

theorem Expires.awaited {settings : CheckSettings} {time : Nat} {w v : World} {deed : Deed}
    {what : String} (expires : Expires settings time w deed what v) :
    deed.awaited = some what := by
  cases expires with
  | element awaits _ => cases awaits <;> rfl
  | group awaits _ => cases awaits <;> rfl
  | dialog _ _ => rfl

namespace Action

variable {σ E : Type} [Host σ E] {settings : CheckSettings} {directive told what : String}
  {l : Locator} {time limit : Nat} {s t : σ}

def Finds {α : Type} (x : Check σ α) : Prop :=
  Raises (fun failure _ => ∀ told what limit, failure ≠ .noSuchElement told what limit) x

theorem Finds.never {α : Type} {x : Check σ α} (finds : Finds x)
    (failed : x s = .error (.noSuchElement told what limit) t) : False :=
  finds s _ t failed told what limit rfl

theorem asks {α : Type} (operation : EStateM HostError σ α) : Finds (Check.ask operation) :=
  .ask fun _ _ _ _ => nofun

theorem literalFinds {α : Type} (d : Deferred α) : Finds (Check.ofExcept d.get : Check σ α) := by
  cases d with
  | value literal => exact .pure literal
  | reference placeholder => exact .throw fun _ => nofun

theorem toggleValueFinds (requested : String) (selected : Bool) (found : List E) :
    Finds (toggleValue requested selected found : Check σ Bool) := by
  induction found with
  | nil => exact .pure _
  | cons first rest ih =>
    have others : Finds (do
        let _ ← toggleValue requested selected rest
        return true : Check σ Bool) := ih.bind fun _ => .pure _
    refine (asks _).bind fun value => .ite ?_ ih
    exact (asks _).bind fun state => .ite ((asks _).bind fun _ => others) others

theorem uncheckAllFinds (found : List E) : Finds (uncheckAll found : Check σ Unit) := by
  induction found with
  | nil => exact .pure _
  | cons first rest ih =>
    exact (asks _).bind fun _ => .ite ((asks _).bind fun _ => ih) ih

theorem awaitElementMissing
    (failed : (awaitElement directive l time : Check σ E) s =
      .error (.noSuchElement told what limit) t) :
    what = l.display ∧ limit = time ∧
      ∃ awaited, (Wait.element l time : EStateM HostError σ E) s = .error (.timeout awaited) t := by
  obtain refused | ⟨answer, u, waited, next⟩ := bindFails.mp failed
  · exact (Raises.attemptNever refused).elim
  · cases answer with
    | ok element => cases next
    | error e =>
      cases e with
      | timeout awaited =>
        cases next
        exact ⟨rfl, rfl, awaited, Raises.attemptError waited⟩
      | _ => cases next

theorem awaitGroupMissing {w v : World}
    (failed : (awaitGroup settings directive l time : Check World (List Handle)) w =
      .error (.noSuchElement told what limit) v) :
    what = l.display ∧ limit = time ∧ ∃ matched,
      Wait.elements l none { timeout := time, interval := settings.interval } w =
        .ok (.timedOut matched) v := by
  obtain refused | ⟨outcome, u, waited, next⟩ := bindFails.mp failed
  · exact (World.elementsNeverFail refused).elim
  · cases outcome with
    | ready found => cases next
    | timedOut matched =>
      cases next
      exact ⟨rfl, rfl, matched, waited⟩

theorem answerMissing {given : Answer}
    (failed : answer directive time given s = .error (.noSuchElement told what limit) t) :
    what = "native dialog" ∧ limit = time ∧
      ∃ e, (given.operation time : EStateM HostError σ Unit) s = .error e t ∧ e.OutOfTime := by
  have attempted (operation : EStateM HostError σ Unit)
      (failed : (Check.attempt operation >>= answered directive time) s =
        .error (.noSuchElement told what limit) t) :
      what = "native dialog" ∧ limit = time ∧ ∃ e, operation s = .error e t ∧ e.OutOfTime := by
    obtain refused | ⟨outcome, u, waited, next⟩ := bindFails.mp failed
    · exact (Raises.attemptNever refused).elim
    · match outcome with
      | .ok () => cases next
      | .error (.timeout awaited) =>
        cases next
        exact ⟨rfl, rfl, _, Raises.attemptError waited, .timeout awaited⟩
      | .error .noAlert =>
        cases next
        exact ⟨rfl, rfl, _, Raises.attemptError waited, .noAlert⟩
      | .error (.stale _) => cases next
      | .error (.command _) => cases next
      | .error (.session _) => cases next
  cases given with
  | accept => exact attempted _ failed
  | dismiss => exact attempted _ failed

theorem toggleMissing {found : List E} {selected : Bool} {values : List (Deferred String)}
    (failed : toggle directive l found selected values s =
      .error (.noSuchElement told what limit) t) :
    limit = 0 ∧ ∃ value, .value value ∈ values ∧
      what = l.display ++ " with value `" ++ value ++ "`" := by
  induction values generalizing s with
  | nil => cases failed
  | cons first rest ih =>
    obtain refused | ⟨requested, u, read, next⟩ := bindFails.mp failed
    · exact ((literalFinds first).never refused).elim
    · cases first with
      | reference placeholder => cases read
      | value literal =>
        cases read
        obtain refused | ⟨any, u, toggled, next⟩ := bindFails.mp next
        · exact ((toggleValueFinds _ _ _).never refused).elim
        · cases any with
          | true =>
            obtain ⟨zero, value, listed, told⟩ := ih next
            exact ⟨zero, value, List.mem_cons_of_mem _ listed, told⟩
          | false =>
            cases next
            exact ⟨rfl, requested, List.mem_cons_self, rfl⟩

theorem literalFirst {α : Type} {d : Deferred α} {next : α → Check σ Unit}
    (failed : (Check.ofExcept d.get >>= next) s = .error (.noSuchElement told what limit) t) :
    ∃ literal, d = .value literal ∧ next literal s = .error (.noSuchElement told what limit) t := by
  cases d with
  | value literal => exact ⟨literal, rfl, failed⟩
  | reference placeholder => cases failed

variable {deed : Deed} {w v : World}

theorem elementFirst {α : Type} {next : Handle → Check World α}
    (failed : (awaitElement directive l time >>= next) w =
      .error (.noSuchElement told what limit) v) (awaits : deed.AwaitsElement l) :
    (Expires settings time w deed what v ∧ limit = time) ∨
      ∃ h u, next h u = .error (.noSuchElement told what limit) v := by
  obtain refused | ⟨h, u, -, next⟩ := bindFails.mp failed
  · obtain ⟨rfl, rfl, awaited, expired⟩ := awaitElementMissing refused
    exact .inl ⟨.element awaits expired, rfl⟩
  · exact .inr ⟨h, u, next⟩

theorem elementOnly {α : Type} {next : Handle → Check World α} (finds : ∀ h, Finds (next h))
    (failed : (awaitElement directive l time >>= next) w =
      .error (.noSuchElement told what limit) v) (awaits : deed.AwaitsElement l) :
    Expires settings time w deed what v ∧ limit = time := by
  obtain expires | ⟨h, u, next⟩ := elementFirst failed awaits
  · exact expires
  · exact ((finds h).never next).elim

theorem groupFirst {α : Type} {next : List Handle → Check World α}
    (failed : (awaitGroup settings directive l time >>= next) w =
      .error (.noSuchElement told what limit) v) (awaits : deed.AwaitsGroup l) :
    (Expires settings time w deed what v ∧ limit = time) ∨
      ∃ found u, next found u = .error (.noSuchElement told what limit) v := by
  obtain refused | ⟨found, u, -, next⟩ := bindFails.mp failed
  · obtain ⟨rfl, rfl, matched, expired⟩ := awaitGroupMissing refused
    exact .inl ⟨.group awaits expired, rfl⟩
  · exact .inr ⟨found, u, next⟩

theorem optionsFirst {selected : Bool} {values : List (Deferred String)}
    (failed : (do
        let options ← awaitOptions directive l time
        toggle directive l options selected values : Check World Unit) w =
      .error (.noSuchElement told what limit) v) (awaits : deed.AwaitsElement l) :
    (Expires settings time w deed what v ∧ limit = time) ∨
      limit = 0 ∧ ∃ value, .value value ∈ values ∧
        what = l.display ++ " with value `" ++ value ++ "`" := by
  obtain refused | ⟨options, u, -, next⟩ := bindFails.mp failed
  · obtain expires | ⟨h, u, next⟩ := elementFirst refused awaits
    · exact .inl expires
    · exact ((asks _).never next).elim
  · exact .inr (toggleMissing next)

theorem carryOutMissing (failed : carryOut settings directive time deed w =
      .error (.noSuchElement told what limit) v) :
    (Expires settings time w deed what v ∧ limit = time) ∨ (deed.Lacks what ∧ limit = 0) := by
  cases deed with
  | click target =>
    obtain ⟨l, rfl, working⟩ := literalFirst failed
    exact .inl (elementOnly (fun _ => asks _) working .click)
  | sendKeys target value =>
    obtain ⟨l, rfl, working⟩ := literalFirst failed
    have typing (h : Handle) : Finds (do
        let keys ← Check.ofExcept value.get
        Check.ask (Host.sendKeys h keys) : Check World Unit) :=
      (literalFinds value).bind fun _ => asks _
    exact .inl (elementOnly typing working (.sendKeys value))
  | clear target mode =>
    cases mode with
    | text =>
      obtain ⟨l, rfl, working⟩ := literalFirst failed
      exact .inl (elementOnly (fun _ => asks _) working .clear)
    | checkbox =>
      obtain ⟨l, rfl, working⟩ := literalFirst failed
      obtain expires | ⟨found, u, next⟩ := groupFirst working .clear
      · exact .inl expires
      · exact ((uncheckAllFinds found).never next).elim
  | check target values =>
    obtain ⟨l, rfl, working⟩ := literalFirst failed
    obtain expires | ⟨found, u, next⟩ := groupFirst working (.check values)
    · exact .inl expires
    · obtain ⟨zero, value, listed, rfl⟩ := toggleMissing next
      exact .inr ⟨.check listed, zero⟩
  | select target values =>
    obtain ⟨l, rfl, working⟩ := literalFirst failed
    obtain expires | ⟨zero, value, listed, rfl⟩ := optionsFirst working (.select values)
    · exact .inl expires
    · exact .inr ⟨.select listed, zero⟩
  | unselect target values =>
    obtain ⟨l, rfl, working⟩ := literalFirst failed
    obtain expires | ⟨zero, value, listed, rfl⟩ := optionsFirst working (.unselect values)
    · exact .inl expires
    · exact .inr ⟨.unselect listed, zero⟩
  | alert given =>
    obtain ⟨rfl, rfl, e, expired, late⟩ := answerMissing failed
    exact .inl ⟨.dialog expired late, rfl⟩
  | switchTo frame =>
    cases frame with
    | top =>
      have leaving : Finds (Check.ask Host.leaveFrames : Check World Unit) := asks _
      exact (leaving.never failed).elim
    | within target =>
      obtain ⟨l, rfl, working⟩ := literalFirst failed
      have entering (h : Handle) : Finds (Check.ask (Host.enterFrame l) : Check World Unit) :=
        asks _
      exact .inl (elementOnly entering working .switchTo)

/-- An action that did not find its target has only waited for it. All else that it tells to be
missing is a requested value. -/
theorem gaveUpUntouched (settings : CheckSettings) (action : Action) (w : World) :
    (∀ told what limit after,
      action.perform settings w = .error (.noSuchElement told what limit) after →
      (action.deed.awaited = some what →
        limit = action.timeout.getD settings.timeout ∧
        Expires settings (action.timeout.getD settings.timeout) w action.deed what after ∧
        ∃ elapsed, after = { w with now := w.now + elapsed }) ∧
      (action.deed.awaited ≠ some what → limit = 0 ∧ action.deed.Lacks what)) ∧
    ∀ l e after, action.deed.AwaitsElement l →
      Wait.element l (action.timeout.getD settings.timeout) w = .error e after →
      action.perform settings w = .error
        (notFound action.directive l.display (action.timeout.getD settings.timeout) e) after ∧
      ∃ elapsed, after = { w with now := w.now + elapsed } := by
  refine ⟨fun told what limit after failed => ?_, fun l e after awaits refused => ?_⟩
  · obtain ⟨expires, rfl⟩ | ⟨lacks, rfl⟩ := carryOutMissing failed
    · exact ⟨fun _ => ⟨rfl, expires, expires.pass⟩, fun other => (other expires.awaited).elim⟩
    · exact ⟨fun target => (lacks.notAwaited target).elim, fun _ => ⟨rfl, lacks⟩⟩
  · exact ⟨(bindOfOk rfl _).trans (carryOutRefused awaits refused), World.elementFails refused⟩

def fading : World :=
  { session := { Browser.Session.start [] with
      nodes := [
        ⟨"p", "sold out", [("id", "note")], false, true, none, none, none, some 20, []⟩,
        ⟨"select", "", [("id", "fruit")], false, false, none, none, none, none, []⟩] }
    now := 0 }

def note : Locator := { strategy := .id, selector := "note" }

def clicksNote (time : Nat) : Action := { deed := .click (.value note), timeout := some time }

def accepts : Action := { deed := .alert .accept, timeout := some 12 }

def selectsFig : Action :=
  { deed := .select (.value { strategy := .id, selector := "fruit" }) [.value "fig"]
    timeout := none }

theorem gaveUpOnFadingNote :
    (clicksNote 10).perform .default fading =
      .error (.noSuchElement "click" "By(id, note)" 10) (fading.pass 10) ∧
    Expires .default 10 fading (clicksNote 10).deed "By(id, note)" (fading.pass 10) ∧
    (clicksNote 30).perform .default fading =
      .error (.host (.stale "element 0")) (fading.pass 20) ∧
    accepts.perform .default fading =
      .error (.noSuchElement "alert" "native dialog" 12) (fading.pass 15) ∧
    (∃ elapsed, fading.pass 15 = { fading with now := fading.now + elapsed }) ∧
    selectsFig.deed.Lacks "By(id, fruit) with value `fig`" := by
  have hidden : (clicksNote 10).perform .default fading =
    .error (.noSuchElement "click" "By(id, note)" 10) (fading.pass 10) := rfl
  have closed : accepts.perform .default fading =
    .error (.noSuchElement "alert" "native dialog" 12) (fading.pass 15) := rfl
  have absent : selectsFig.perform .default fading =
    .error (.noSuchElement "select" "By(id, fruit) with value `fig`" 0) fading := rfl
  have removed : Wait.element note 30 fading = .error (.stale "element 0") (fading.pass 20) := rfl
  obtain ⟨-, expires, -⟩ := ((gaveUpUntouched .default _ _).1 _ _ _ _ hidden).1 rfl
  obtain ⟨-, -, untouched⟩ := ((gaveUpUntouched .default _ _).1 _ _ _ _ closed).1 rfl
  obtain ⟨-, lacks⟩ := ((gaveUpUntouched .default _ _).1 _ _ _ _ absent).2 (by decide)
  obtain ⟨gone, -⟩ := (gaveUpUntouched .default (clicksNote 30) _).2 _ _ _ .click removed
  exact ⟨hidden, expires, gone, closed, untouched, lacks⟩

end Action

end PageCheck
