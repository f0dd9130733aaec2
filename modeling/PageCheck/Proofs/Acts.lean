import PageCheck.Proofs.Looks
import PageCheck.Run

/-!
Where also the operations of two hosts that act on the page are alike, so are the actions, and the
link of a step. Acting never takes console entries, nor does it load a page by its address.
-/
namespace PageCheck

variable {σ τ E : Type} [Host σ E] [Host τ E]

structure Acts (R : σ → τ → Prop) : Prop extends Looks R where
  waitLocated (l : Locator) (time : Nat) :
    Alike R (Host.waitLocated (σ := σ) l time) (Host.waitLocated (σ := τ) l time)
  waitVisible (e : E) (time : Nat) :
    Alike R (Host.waitVisible (σ := σ) e time) (Host.waitVisible (σ := τ) e time)
  click (e : E) : Alike R (Host.click (σ := σ) e) (Host.click (σ := τ) e)
  sendKeys (e : E) (keys : String) :
    Alike R (Host.sendKeys (σ := σ) e keys) (Host.sendKeys (σ := τ) e keys)
  clear (e : E) : Alike R (Host.clear (σ := σ) e) (Host.clear (σ := τ) e)
  enterFrame (l : Locator) : Alike R (Host.enterFrame (σ := σ) l) (Host.enterFrame (σ := τ) l)
  leaveFrames : Alike R (Host.leaveFrames (σ := σ)) (Host.leaveFrames (σ := τ))
  acceptDialog (time : Nat) :
    Alike R (Host.acceptDialog (σ := σ) time) (Host.acceptDialog (σ := τ) time)
  dismissDialog (time : Nat) :
    Alike R (Host.dismissDialog (σ := σ) time) (Host.dismissDialog (σ := τ) time)

namespace Acts

variable {R : σ → τ → Prop}

theorem awaitElement (h : Acts R) (directive : String) (l : Locator) (time : Nat) :
    Alike R (Action.awaitElement (σ := σ) directive l time)
      (Action.awaitElement (σ := τ) directive l time) := by
  have wait : Alike R (Wait.element (σ := σ) l time) (Wait.element (σ := τ) l time) :=
    (h.waitLocated l time).bind fun found => h.waitVisible found time
  refine wait.attempt.bind fun found => ?_
  cases found with
  | ok element => exact .pure _
  | error e => exact .throw _

theorem awaitGroup (h : Acts R) (settings : CheckSettings) (directive : String) (l : Locator)
    (time : Nat) :
    Alike R (Action.awaitGroup (σ := σ) settings directive l time)
      (Action.awaitGroup (σ := τ) settings directive l time) := by
  refine (h.elements l none _).bind fun outcome => ?_
  cases outcome with
  | ready found => exact .pure _
  | timedOut matched => exact .throw _

theorem awaitOptions (h : Acts R) (directive : String) (l : Locator) (time : Nat) :
    Alike R (Action.awaitOptions (σ := σ) directive l time)
      (Action.awaitOptions (σ := τ) directive l time) :=
  (h.awaitElement directive l time).bind fun select => (h.findWithin select _).ask

theorem toggleValue (h : Acts R) (requested : String) (selected : Bool) (group : List E) :
    Alike R (Action.toggleValue (σ := σ) requested selected group)
      (Action.toggleValue (σ := τ) requested selected group) := by
  induction group with
  | nil => exact .pure _
  | cons first rest ih =>
    have others : Alike R
        (do let _ ← Action.toggleValue (σ := σ) requested selected rest; return true)
        (do let _ ← Action.toggleValue (σ := τ) requested selected rest; return true) :=
      ih.bind fun _ => .pure _
    refine (h.attr first "value").ask.bind fun value => .ite (fun _ => ?_) fun _ => ih
    refine (h.isSelected first).ask.bind fun state => .ite (fun _ => ?_) fun _ => others
    exact (h.click first).ask.bind fun _ => others

theorem toggle (h : Acts R) (directive : String) (l : Locator) (group : List E) (selected : Bool)
    (values : List (Deferred String)) :
    Alike R (Action.toggle (σ := σ) directive l group selected values)
      (Action.toggle (σ := τ) directive l group selected values) := by
  induction values with
  | nil => exact .pure _
  | cons first rest ih =>
    refine (Alike.ofExcept first.get).bind fun requested => ?_
    refine (h.toggleValue requested selected group).bind fun found => ?_
    exact .ite (fun _ => ih) fun _ => .throw _

theorem uncheckAll (h : Acts R) (group : List E) :
    Alike R (Action.uncheckAll (σ := σ) group) (Action.uncheckAll (σ := τ) group) := by
  induction group with
  | nil => exact .pure _
  | cons first rest ih =>
    refine (h.isSelected first).ask.bind fun state => .ite (fun _ => ?_) fun _ => ih
    exact (h.click first).ask.bind fun _ => ih

theorem answer (h : Acts R) (directive : String) (time : Nat) (given : Answer) :
    Alike R (Action.answer (σ := σ) directive time given)
      (Action.answer (σ := τ) directive time given) := by
  cases given
  case' accept => refine (h.acceptDialog time).attempt.bind fun outcome => ?_
  case' dismiss => refine (h.dismissDialog time).attempt.bind fun outcome => ?_
  all_goals
    cases outcome with
    | ok _ => exact .pure _
    | error e => cases e <;> exact .throw _

theorem carryOut (h : Acts R) (settings : CheckSettings) (directive : String) (time : Nat)
    (deed : Deed) :
    Alike R (Action.carryOut (σ := σ) settings directive time deed)
      (Action.carryOut (σ := τ) settings directive time deed) := by
  match deed with
  | .click target =>
    refine (Alike.ofExcept target.get).bind fun l => ?_
    exact (h.awaitElement directive l time).bind fun element => (h.click element).ask
  | .sendKeys target value =>
    refine (Alike.ofExcept target.get).bind fun l => ?_
    refine (h.awaitElement directive l time).bind fun element => ?_
    exact (Alike.ofExcept value.get).bind fun keys => (h.sendKeys element keys).ask
  | .clear target .text =>
    refine (Alike.ofExcept target.get).bind fun l => ?_
    exact (h.awaitElement directive l time).bind fun element => (h.clear element).ask
  | .clear target .checkbox =>
    refine (Alike.ofExcept target.get).bind fun l => ?_
    exact (h.awaitGroup settings directive l time).bind h.uncheckAll
  | .check target values =>
    refine (Alike.ofExcept target.get).bind fun l => ?_
    exact (h.awaitGroup settings directive l time).bind fun group =>
      h.toggle directive l group true values
  | .select target values =>
    refine (Alike.ofExcept target.get).bind fun l => ?_
    exact (h.awaitOptions directive l time).bind fun group =>
      h.toggle directive l group true values
  | .unselect target values =>
    refine (Alike.ofExcept target.get).bind fun l => ?_
    exact (h.awaitOptions directive l time).bind fun group =>
      h.toggle directive l group false values
  | .alert given => exact h.answer directive time given
  | .switchTo .top => exact h.leaveFrames.ask
  | .switchTo (.within locator) =>
    refine (Alike.ofExcept locator.get).bind fun l => ?_
    exact (h.awaitElement directive l time).bind fun _ => (h.enterFrame l).ask

theorem perform (h : Acts R) (settings : CheckSettings) (action : Action) :
    Alike R (action.perform (σ := σ) settings) (action.perform (σ := τ) settings) :=
  (h.checkEmit _).bind fun _ => h.carryOut settings _ _ _

theorem follow (h : Acts R) (settings : CheckSettings) (link : Deferred Locator) :
    Alike R (Run.follow (σ := σ) settings link) (Run.follow (σ := τ) settings link) := by
  refine (Alike.ofExcept link.get).bind fun l => (h.checkEmit _).bind fun _ => ?_
  exact (h.awaitElement _ l _).bind fun element => (h.click element).ask

theorem visit (h : Acts R) (settings : CheckSettings) (url : Deferred String)
    (goto : ∀ url, Alike R (Host.goto (σ := σ) url) (Host.goto (σ := τ) url)) :
    Alike R (Run.visit (σ := σ) settings url) (Run.visit (σ := τ) settings url) :=
  (Alike.ofExcept url.get).bind fun _ => (h.checkEmit _).bind fun _ => (goto _).ask

end Acts

end PageCheck
