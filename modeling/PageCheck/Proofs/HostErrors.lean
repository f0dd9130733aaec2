import PageCheck.Proofs.FirstShown
import PageCheck.Proofs.PartFailures

/-!
Errors of the in-memory browser. Beside waits that run out of time there are two only: a page that
cannot be loaded, and an element that is gone. A frame whose element has been waited for can always
be entered.
-/
namespace PageCheck

open Browser (World Session Handle Operation)

inductive Unloadable : HostError → World → Prop where
  | missing {url : String} {w : World} (unknown : w.session.pages.get? url = none) :
    Unloadable (.command ("no page at " ++ url)) w

inductive Breaks : HostError → World → Prop where
  | stale (element : String) (w : World) : Breaks (.stale element) w
  | unloadable {e : HostError} {w : World} (unloadable : Unloadable e w) : Breaks e w

namespace Browser

theorem Session.loadFails {s : Session} {now : Nat} {url : String} {e : HostError}
    (failed : s.load now url = .error e) (time : Nat) : Unloadable e ⟨s, time⟩ := by
  unfold load at failed
  split at failed
  · next unknown =>
    cases failed
    exact .missing unknown
  · cases failed

theorem Session.applyAllFails {effects : List Effect} {s s' : Session} {now : Nat} {e : HostError}
    (failed : s.applyAll now effects = (s', some e)) : Unloadable e ⟨s', now⟩ := by
  induction effects generalizing s with
  | nil => cases failed
  | cons effect rest ih =>
    rw [applyAll] at failed
    split at failed
    · exact ih failed
    · next failed' =>
      cases failed
      cases effect with
      | navigate url => exact loadFails failed' now
      | _ => cases failed'

theorem Session.nodeFails {s : Session} {now : Nat} {h : Handle} {e : HostError}
    (failed : s.node now h = .error e) (w : World) : Breaks e w := by
  unfold node at failed
  split at failed
  · split at failed
    · cases failed
    · cases failed
      exact .stale _ w
  · cases failed
    exact .stale _ w

namespace World

variable {α : Type}

theorem readRaises (h : Handle) (view : Node → α) : Raises Breaks (read h view) := by
  intro w e v failed
  unfold read lookAt at failed
  cases found : w.session.node w.now h with
  | ok n =>
    simp only [found] at failed
    cases failed
  | error other =>
    simp only [found] at failed
    cases failed
    exact Session.nodeFails found _

theorem findWithinRaises (parent : Handle) (l : Locator) : Raises Breaks (findWithin parent l) := by
  intro w e v failed
  unfold findWithin lookAt at failed
  cases found : w.session.node w.now parent with
  | ok n =>
    simp only [found] at failed
    cases failed
  | error other =>
    simp only [found] at failed
    cases failed
    exact Session.nodeFails found _

theorem editRaises (h : Handle) (f : Node → Node) : Raises Breaks (edit h f) :=
  (readRaises h id).bind fun _ => nofun

theorem gotoRaises (url : String) : Raises Unloadable (goto url) := by
  intro w e v failed
  unfold goto at failed
  split at failed
  · cases failed
  · next failed' =>
    cases failed
    exact Session.loadFails failed' w.now

theorem clickRaises (h : Handle) : Raises Breaks (click h) := by
  intro w e v failed
  unfold click at failed
  split at failed
  · next failed' =>
    cases failed
    exact Session.nodeFails failed' _
  · split at failed
    · cases failed
    · next failed' =>
      cases failed
      exact .unloadable (Session.applyAllFails failed')

theorem awaitRaises {P : HostError → World → Prop} {question : Operation (Option α)}
    {expired : HostError} (late : ∀ w, P expired w) (asked : Raises P question) (ticks : Nat) :
    Raises P (await question expired ticks) := by
  induction ticks with
  | zero =>
    refine asked.bind fun found => ?_
    cases found with
    | some found => exact .pure _
    | none => exact .throw late
  | succ ticks ih =>
    refine asked.bind fun found => ?_
    cases found with
    | some found => exact .pure _
    | none => exact Raises.bind nofun fun _ => ih

theorem waitRaises (l : Locator) (time : Nat) :
    Raises (fun e w => (∃ awaited, e = .timeout awaited) ∨ Breaks e w)
      (Wait.element l time : Operation Handle) := by
  refine .bind (awaitRaises (fun _ => .inl ⟨_, rfl⟩) (.map _ nofun) _) fun h => ?_
  refine awaitRaises (fun _ => .inl ⟨_, rfl⟩) (.map _ ?_) _
  exact (readRaises h _).mono fun _ _ => .inr

theorem answerRaises (accepted : Bool) (time : Nat) :
    Raises (fun e _ => ∃ awaited, e = .timeout awaited) (answer accepted time) := by
  refine awaitRaises (fun _ => ⟨_, rfl⟩) ?_ _
  intro w e v failed
  unfold answerOpen at failed
  split at failed <;> cases failed

theorem foundAfter {l : Locator} {time : Nat} {w v : World} {h : Handle}
    (ended : (Wait.element l time : Operation Handle) w = .ok h v) : v.matching l ≠ [] := by
  obtain ⟨-, n, first⟩ := elementFound ended
  obtain ⟨others, located⟩ := first.matching
  exact located ▸ List.cons_ne_nil n others

theorem enterFrameAfter {l : Locator} {time : Nat} {w v : World} {h : Handle}
    (ended : (Wait.element l time : Operation Handle) w = .ok h v) :
    ∃ u, enterFrame l v = .ok () u := by
  have named := v.foundNames l
  generalize nodes : v.matching l = matched at named
  generalize handles : v.session.find v.now l = found at named
  cases named with
  | nil => exact absurd nodes (foundAfter ended)
  | @cons first n _ _ atFirst _ =>
    have looked : findAll l v = .ok (first :: _) v := congrArg (EStateM.Result.ok · v) handles
    unfold enterFrame
    rw [bindOfOk looked]
    exact ⟨_, bindOfOk (readSees atFirst _) _⟩

theorem hostFailsBreaks {e : HostError} {w : World} (fails : HostFails e w) : Breaks e w := by
  cases fails with
  | goto failed => exact .unloadable (gotoRaises _ _ _ _ failed)
  | currentUrl failed => cases failed
  | outerHtml failed => cases failed
  | findAll failed => cases failed
  | findWithin failed => exact findWithinRaises _ _ _ _ _ failed
  | isDisplayed failed => exact readRaises _ _ _ _ _ failed
  | tagName failed => exact readRaises _ _ _ _ _ failed
  | attr failed => exact readRaises _ _ _ _ _ failed
  | text failed => exact readRaises _ _ _ _ _ failed
  | isSelected failed => exact readRaises _ _ _ _ _ failed
  | click failed => exact clickRaises _ _ _ _ failed
  | sendKeys failed => exact editRaises _ _ _ _ _ failed
  | clear failed => exact editRaises _ _ _ _ _ failed
  | drainConsole failed => cases failed
  | leaveFrames failed => cases failed
  | element failed inTime =>
    obtain ⟨awaited, late⟩ | breaks := waitRaises _ _ _ _ _ failed
    · exact (inTime awaited late).elim
    · exact breaks
  | enterFrame found failed =>
    obtain ⟨u, entered⟩ := enterFrameAfter found
    exact nomatch failed.symm.trans entered
  | acceptDialog failed inTime =>
    obtain ⟨awaited, late⟩ := answerRaises _ _ _ _ _ failed
    exact (inTime awaited late).elim
  | dismissDialog failed inTime =>
    obtain ⟨awaited, late⟩ := answerRaises _ _ _ _ _ failed
    exact (inTime awaited late).elim

end World

end Browser

end PageCheck
