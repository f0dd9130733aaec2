import PageCheck.Browser.Journal
import PageCheck.Proofs.Marking

/-!
Actions that click nothing, as the journal has it. What only looks at a page is answered by the page
and leaves calls in the journal that are no clicks; an action on a group whose members are in the
state that it asks for already is of this kind.
-/
namespace PageCheck

def Yields {ε σ α : Type} (I : σ → Prop) (x : EStateM ε σ α) (value : α) : Prop :=
  ∀ s, I s → ∃ t, x s = .ok value t ∧ I t

namespace Yields

variable {ε σ α β : Type} {I : σ → Prop}

theorem pure (value : α) : Yields I (Pure.pure value : EStateM ε σ α) value :=
  fun s held => ⟨s, rfl, held⟩

theorem bind {x : EStateM ε σ α} {f : α → EStateM ε σ β} {value : α} {last : β}
    (first : Yields I x value) (next : Yields I (f value) last) : Yields I (x >>= f) last := by
  intro s held
  obtain ⟨t, ran, held⟩ := first s held
  obtain ⟨u, ran', held⟩ := next t held
  exact ⟨u, (bindOfOk ran f).trans ran', held⟩

theorem ask {operation : EStateM HostError σ α} {value : α} (yields : Yields I operation value) :
    Yields I (Check.ask operation) value := by
  intro s held
  obtain ⟨t, ran, held⟩ := yields s held
  exact ⟨t, by rw [Check.ask, ran], held⟩

theorem attempt {operation : EStateM HostError σ α} {value : α} (yields : Yields I operation value) :
    Yields I (Check.attempt operation) (.ok value) := by
  intro s held
  obtain ⟨t, ran, held⟩ := yields s held
  exact ⟨t, by rw [Check.attempt, ran], held⟩

theorem ofSees {s : σ} {x : Check σ α} {value : α} (sees : Sees s x (.ok value)) :
    Yields (· = s) x value := by
  rintro _ rfl
  exact ⟨_, sees, rfl⟩

theorem run {ω : Type} [Clock σ] (p : Poller) {attempt : Check σ (Attempt α ω)} {value : α}
    (done : Yields I attempt (.done value)) : Yields I (p.run attempt) (.ready value) := by
  have started (limit : Nat) : Yields I
      (do let start ← Check.now; p.attempts (start + p.timeout) attempt limit 0)
      (.ready value) := by
    intro s held
    have attempted : Yields I (p.attempts (Clock.now s + p.timeout) attempt limit 0)
        (.ready value) := by
      cases limit with
      | zero => exact done.bind (.pure _)
      | succ limit => exact done.bind (.pure _)
    exact attempted s held
  exact started p.attemptLimit

end Yields

namespace Browser

structure Unclicked (page : World) (before : List Call) (r : Recorded World) : Prop where
  host : r.host = page
  faultless : r.faults = []
  calls : ∃ made, r.calls = before ++ made ∧ ∀ call ∈ made, call.name ≠ "click"

namespace Unclicked

variable {α : Type} {page : World} {before : List Call} {l : Locator} {h : Handle} {n : Node}

theorem call {name : String} {arguments : List Json} {write : α → Json} {operation : Operation α}
    {value : α} (other : name ≠ "click") (answers : operation page = .ok value page) :
    Yields (Unclicked page before) (Recorded.call name arguments write operation) value := by
  intro r unclicked
  obtain ⟨made, calls, others⟩ := unclicked.calls
  have found : r.faults.find?
      (fun f => f.covers name ((r.counts.get? name).getD 0 + 1)) = none := by
    rw [unclicked.faultless]
    rfl
  have answered : operation r.host = .ok value page := unclicked.host ▸ answers
  let one : Call :=
    { start := Clock.now r.host, name, arguments, answer := write value }
  refine ⟨r.note name arguments ((r.counts.get? name).getD 0 + 1) page (write value), ?_,
    ⟨rfl, unclicked.faultless, made ++ [one], ?_, ?_⟩⟩
  · simp only [Recorded.call, found, answered]
  · rw [← List.append_assoc, ← calls]
    rfl
  · exact List.forall_mem_append.mpr ⟨others, List.forall_mem_singleton.mpr other⟩

theorem emit (event : Event) :
    Yields (Unclicked page before) (Check.emit event : Check (Recorded World) Unit) () :=
  fun _ unclicked => ⟨_, rfl, ⟨unclicked.host, unclicked.faultless, unclicked.calls⟩⟩

theorem read {β : Type} {name : String} {arguments : List Json} {write : β → Json}
    (other : name ≠ "click") (named : page.Names h n) (view : Node → β) :
    Yields (Unclicked page before) (Recorded.call name arguments write (World.read h view))
      (view n) :=
  call other (World.readSees named view)

theorem lookForElements (first : page.ShownFirst l h n) :
    Yields (Unclicked page before) (Wait.lookForElements l none : Check (Recorded World) _)
      (.done (page.session.find page.now l)) := by
  obtain ⟨others, found⟩ := first.located
  have located : Yields (Unclicked page before)
      (Check.attempt (Host.findAll l : EStateM HostError (Recorded World) _))
      (.ok (h :: others)) :=
    .attempt (call (by decide) (by rw [← found]; rfl))
  have displayed : Yields (Unclicked page before)
      (Check.attempt (Host.isDisplayed h : EStateM HostError (Recorded World) _)) (.ok true) := by
    rw [← Bool.not_false, ← first.shown]
    exact .attempt (read (by decide) first.named fun n => !n.hidden)
  rw [found]
  exact located.bind (displayed.bind (.pure _))

theorem element (first : page.ShownFirst l h n) (time : Nat) :
    Yields (Unclicked page before) (Wait.element l time : EStateM HostError (Recorded World) _) h :=
  (call (by decide) (first.waitLocated time)).bind
    (call (by decide) (World.visibleAtOnce first.named first.shown time))

variable {found : List Handle} {value : String} {values : List String} {state : Bool}

theorem toggleValue (settled : ∀ h ∈ found, ∃ n, page.Names h n ∧
      (n.attr? "value" = some value → n.selected = state)) :
    Yields (Unclicked page before)
      (Action.toggleValue value state found : Check (Recorded World) _)
      (!(page.having found [value]).isEmpty) := by
  induction found with
  | nil => exact .pure _
  | cons h rest ih =>
    obtain ⟨⟨n, named, already⟩, others⟩ := List.forall_mem_cons.mp settled
    refine (Yields.ask (read (by decide) named fun n => n.attr? "value")).bind ?_
    by_cases same : n.attr? "value" = some value
    · have member : page.having (h :: rest) [value] = h :: page.having rest [value] :=
        List.filter_cons_of_pos (by simp [World.valueNamed named, same])
      rw [if_pos same, member]
      refine (Yields.ask (read (by decide) named Node.selected)).bind ?_
      rw [already same, if_neg (not_not.mpr rfl)]
      exact (ih others).bind (.pure _)
    · have none : page.having (h :: rest) [value] = page.having rest [value] :=
        List.filter_cons_of_neg (by simp [World.valueNamed named, same])
      rw [if_neg same, none]
      exact ih others

theorem toggle (directive : String) (l : Locator)
    (offered : ∀ value ∈ values, page.Offers found value)
    (settled : ∀ h ∈ found, ∃ n, page.Names h n ∧
      ∀ value ∈ values, n.attr? "value" = some value → n.selected = state) :
    Yields (Unclicked page before)
      (Action.toggle directive l found state (values.map .value) : Check (Recorded World) _) () := by
  induction values with
  | nil => exact .pure _
  | cons value values ih =>
    obtain ⟨first, others⟩ := List.forall_mem_cons.mp offered
    have here : ∀ h ∈ found, ∃ n, page.Names h n ∧
        (n.attr? "value" = some value → n.selected = state) := by
      intro h member
      obtain ⟨n, named, already⟩ := settled h member
      exact ⟨n, named, already value (.head _)⟩
    refine (toggleValue here).bind ?_
    rw [World.offersIff.mp first]
    refine ih others fun h member => ?_
    obtain ⟨n, named, already⟩ := settled h member
    exact ⟨n, named, fun other listed => already other (.tail _ listed)⟩

theorem uncheckAll (settled : ∀ h ∈ found, ∃ n, page.Names h n ∧ n.selected = false) :
    Yields (Unclicked page before) (Action.uncheckAll found : Check (Recorded World) _) () := by
  induction found with
  | nil => exact .pure _
  | cons h rest ih =>
    obtain ⟨⟨n, named, already⟩, others⟩ := List.forall_mem_cons.mp settled
    refine (Yields.ask (read (by decide) named Node.selected)).bind ?_
    rw [already]
    exact ih others

end Unclicked

end Browser

end PageCheck
