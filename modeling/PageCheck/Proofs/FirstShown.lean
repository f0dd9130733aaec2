import PageCheck.Action.Perform
import PageCheck.Proofs.Attempts
import PageCheck.Proofs.Polling
import PageCheck.Proofs.Raises

/-!
Waits for a first match that is displayed. Such a wait ends on a page that shows one, which differs
from the page where it began by the time only; and where the page shows one already, it ends at
once.
-/
namespace PageCheck.Browser.World

variable {α : Type} {w v page : World} {l : Locator} {h : Handle} {n : Node} {time : Nat}

theorem readOk {view : Node → α} {value : α} (ended : read h view w = .ok value v) :
    v = w ∧ ∃ n, w.Names h n ∧ value = view n := by
  unfold read lookAt at ended
  cases found : w.session.node w.now h with
  | error e =>
    simp only [found] at ended
    cases ended
  | ok n =>
    simp only [found] at ended
    cases ended
    exact ⟨rfl, n, found, rfl⟩

theorem shownOk {found : Option Handle}
    (ended : ((fun displayed => if displayed then some h else none) <$> isDisplayed h) w =
      .ok found v) : v = w ∧ ∃ n, w.Names h n ∧ found = if !n.hidden then some h else none := by
  rw [map_eq_pure_bind] at ended
  obtain ⟨displayed, u, ended, ⟨⟩⟩ := bindEnds.mp ended
  obtain ⟨rfl, n, named, rfl⟩ := readOk ended
  exact ⟨rfl, n, named, rfl⟩

theorem namesStored (named : w.Names h n) :
    (if h.generation = w.session.generation then w.session.nodes[h.index]? else none) = some n ∧
      w.session.isPresent w.now n = true := by
  unfold Names Session.node at named
  split at named
  · next stored =>
    split at named
    · next here =>
      cases named
      exact ⟨stored, here⟩
    · cases named
  · cases named

theorem namedAt (named : w.Names h n) : w.session.nodes[h.index]? = some n := by
  obtain ⟨stored, -⟩ := namesStored named
  split at stored
  · exact stored
  · cases stored

theorem namesLater {later : Node} (named : w.Names h n) (still : (w.pass time).Names h later) :
    later = n := by
  have atFirst := namedAt named
  have atLast := namedAt still
  exact Option.some.inj (atLast.symm.trans atFirst)

theorem awaitOk {question : Operation (Option α)} {expired : HostError} {ticks : Nat} {found : α}
    (looks : ∀ {w value v}, question w = .ok value v → v = w)
    (ended : await question expired ticks w = .ok found v) :
    ∃ time, v = w.pass time ∧ question v = .ok (some found) v := by
  induction ticks generalizing w with
  | zero =>
    rw [await] at ended
    obtain ⟨answer, u, asked, ended⟩ := bindEnds.mp ended
    obtain rfl := looks asked
    cases answer with
    | none => cases ended
    | some answer =>
      cases ended
      exact ⟨0, rfl, asked⟩
  | succ ticks ih =>
    rw [await] at ended
    obtain ⟨answer, u, asked, ended⟩ := bindEnds.mp ended
    obtain rfl := looks asked
    cases answer with
    | none =>
      obtain ⟨_, _, ⟨⟩, ended⟩ := bindEnds.mp ended
      obtain ⟨time, rfl, asked⟩ := ih ended
      exact ⟨tick + time, Poller.passTwice u tick time, asked⟩
    | some answer =>
      cases ended
      exact ⟨0, rfl, asked⟩

theorem awaitAtOnce {question : Operation (Option α)} {expired : HostError} {found : α}
    (asked : question w = .ok (some found) w) (ticks : Nat) :
    await question expired ticks w = .ok found w := by
  cases ticks with
  | zero => rw [await]; exact bindOfOk asked _
  | succ ticks => rw [await]; exact bindOfOk asked _

structure ShownFirst (w : World) (l : Locator) (h : Handle) (n : Node) : Prop where
  located : ∃ others, w.session.find w.now l = h :: others
  named : w.Names h n
  shown : n.hidden = false

namespace ShownFirst

theorem ofMatching {others : List Node} (located : page.matching l = n :: others)
    (shown : n.hidden = false) : ∃ h, page.ShownFirst l h n := by
  have named := page.foundNames l
  rw [located] at named
  obtain ⟨h, rest, first, -, found⟩ := List.forall₂_cons_right_iff.mp named
  exact ⟨h, ⟨rest, found⟩, first, shown⟩

theorem matching (first : page.ShownFirst l h n) : ∃ others, page.matching l = n :: others := by
  obtain ⟨rest, found⟩ := first.located
  have named := page.foundNames l
  rw [found] at named
  obtain ⟨m, others, atFirst, -, located⟩ := List.forall₂_cons_left_iff.mp named
  cases first.named.symm.trans atFirst
  exact ⟨others, located⟩

theorem seen (first : page.ShownFirst l h n) :
    page.presenceSeen l none = .done (page.session.find page.now l) := by
  obtain ⟨others, located⟩ := first.matching
  have suited : Wait.unsuited none (others.length + 1) = false := rfl
  simp only [presenceSeen, located, suited, first.shown, Bool.or_self, Bool.false_eq_true, if_false]

theorem waitLocated (first : w.ShownFirst l h n) (time : Nat) :
    World.waitLocated l time w = .ok h w := by
  obtain ⟨others, found⟩ := first.located
  refine awaitAtOnce ?_ _
  show EStateM.Result.ok (w.session.find w.now l).head? w = _
  rw [found]
  rfl

end ShownFirst

theorem visibleAtOnce (named : w.Names h n) (shown : n.hidden = false) (time : Nat) :
    waitVisible h time w = .ok h w := by
  refine awaitAtOnce ?_ _
  rw [map_eq_pure_bind]
  refine (bindOfOk (readSees named _) _).trans ?_
  rw [shown]
  rfl

theorem ShownFirst.element (first : w.ShownFirst l h n) (time : Nat) :
    (Wait.element l time : Operation Handle) w = .ok h w :=
  (bindOfOk (first.waitLocated time) _).trans (visibleAtOnce first.named first.shown time)

theorem elementFound (ended : (Wait.element l time : Operation Handle) w = .ok h page) :
    (∃ elapsed, page = w.pass elapsed) ∧ ∃ n, page.ShownFirst l h n := by
  obtain ⟨first, u, ended, shown⟩ := bindEnds.mp ended
  have looks {w v : World} {found : Option Handle}
      (asked : (List.head? <$> findAll l) w = .ok found v) : v = w := by
    cases asked
    rfl
  obtain ⟨elapsed, rfl, asked⟩ := awaitOk looks ended
  obtain ⟨later, same, visible⟩ := awaitOk (fun seen => (shownOk seen).1) shown
  obtain ⟨-, m, there, displayed⟩ := shownOk visible
  have head : ((w.pass elapsed).session.find (w.pass elapsed).now l).head? = some first :=
    (EStateM.Result.ok.inj asked).1
  obtain ⟨others, found⟩ := List.head?_eq_some_iff.mp head
  have named := (w.pass elapsed).foundNames l
  rw [found] at named
  obtain ⟨n, rest, atFirst, -, -⟩ := List.forall₂_cons_left_iff.mp named
  obtain rfl : m = n := namesLater atFirst (same ▸ there)
  have shown' : m.hidden = false := by
    cases hidden : m.hidden with
    | false => rfl
    | true => simp [hidden] at displayed
  -- so the first look finds it displayed, and the wait ends there
  cases (visibleAtOnce atFirst shown' time).symm.trans shown
  exact ⟨⟨elapsed, rfl⟩, m, ⟨others, found⟩, atFirst, shown'⟩

theorem elementAwaited (directive : String)
    (ended : (Wait.element l time : Operation Handle) w = .ok h page) :
    Action.awaitElement directive l time w = .ok h page := by
  have attempted : Check.attempt (Wait.element l time) w = .ok (.ok h) page := by
    rw [Check.attempt, ended]
  exact bindOfOk attempted _

theorem presenceFound {found : List Handle} (done : page.presenceSeen l none = .done found) :
    found = page.session.find page.now l ∧ ∃ h n, page.ShownFirst l h n := by
  obtain ⟨n, others, located, -, shown⟩ := presenceDone done
  obtain ⟨h, first⟩ := ShownFirst.ofMatching located shown
  refine ⟨?_, h, n, first⟩
  unfold presenceSeen at done
  simp only [located] at done
  split at done
  · cases done
  · cases done
    rfl

theorem elementsFound {p : Poller} {found : List Handle}
    (ended : Wait.elements l none p w = .ok (.ready found) page) :
    (∃ elapsed, page = w.pass elapsed) ∧ found = page.session.find page.now l ∧
      ∃ h n, page.ShownFirst l h n := by
  obtain ⟨elapsed, -, last⟩ := p.runLast (fun w => w.lookForElementsSees l none) w
  have both : resultIn (.ok (Polled.ready found)) page = _ := ended.symm.trans last
  obtain ⟨same, rfl⟩ := resultInInj both
  refine ⟨⟨elapsed, rfl⟩, presenceFound ?_⟩
  cases seen : (w.pass elapsed).presenceSeen l none with
  | done value =>
    rw [seen] at same
    cases same
    rfl
  | again matched =>
    rw [seen] at same
    cases same

end PageCheck.Browser.World
