import PageCheck.Action.Perform
import PageCheck.Proofs.ChangedNodes

/-!
Pages and their marks: of every node, whether it is selected. The loops over the members of a group
are followed for whatever a click makes of the marks. A click on a box, or on an option of a select
that takes several, turns one mark; there the loops set the marks of those that were asked for, and
no others.
-/
namespace PageCheck.Browser

def Node.marked (n : Node) (mark : Bool) : Node := { n with selected := mark }

theorem Node.isMatchMarked (n : Node) (mark : Bool) (l : Locator) :
    (n.marked mark).isMatch l = n.isMatch l := by
  unfold isMatch
  cases l.strategy <;> rfl

namespace World

variable {w : World} {h : Handle} {n : Node} {mark : Nat → Bool}

def marks (w : World) (index : Nat) : Bool := (w.session.nodes[index]?).any Node.selected

def marked (w : World) (mark : Nat → Bool) : World :=
  { w with session := { w.session with
      nodes := w.session.nodes.mapIdx fun index n => n.marked (mark index) } }

theorem markedMarks (w : World) : w.marked w.marks = w := by
  have nodes : (w.session.nodes.mapIdx fun index n => n.marked (w.marks index)) =
      w.session.nodes := by
    refine List.ext_getElem? fun index => ?_
    rw [List.getElem?_mapIdx]
    cases stored : w.session.nodes[index]? with
    | none => rfl
    | some n =>
      rw [Option.map_some, marks, stored]
      rfl
  rw [marked, nodes]

theorem markedTwice (w : World) (first later : Nat → Bool) :
    (w.marked first).marked later = w.marked later := by
  simp only [marked, List.mapIdx_mapIdx]
  rfl

theorem marksOfMarked (w : World) (mark : Nat → Bool) :
    w.marked (w.marked mark).marks = w.marked mark := by
  rw [← w.markedTwice mark, markedMarks]

theorem changeMarked {p chosen : Node → Bool}
    (same : ∀ index n, w.session.nodes[index]? = some n →
      mark index = if p n then chosen n else n.selected) :
    w.marked mark = { w with session := w.session.change p fun n => n.marked (chosen n) } := by
  have nodes : (w.session.nodes.mapIdx fun index n => n.marked (mark index)) =
      w.session.nodes.map fun n => if p n then n.marked (chosen n) else n := by
    refine List.ext_getElem? fun index => ?_
    rw [List.getElem?_mapIdx, List.getElem?_map]
    cases stored : w.session.nodes[index]? with
    | none => rfl
    | some n =>
      rw [Option.map_some, Option.map_some, same index n stored]
      split <;> rfl
  rw [marked, nodes]
  rfl

theorem handlesMarked {p : Node → Bool} (blind : ∀ n mark, p (n.marked mark) = p n) :
    (w.marked mark).session.handles w.now p = w.session.handles w.now p :=
  handlesChanged (fun _ _ _ => rfl) fun index n => blind n (mark index)

theorem handlesIndex {p : Node → Bool} {index : Nat}
    (stored : w.session.nodes[index]? = some n) :
    index ∈ (w.session.handles w.now p).map Handle.index ↔
      (w.session.isPresent w.now n && p n) = true := by
  simp only [Session.handles, List.map_map, List.mem_map, List.mem_filter]
  constructor
  · rintro ⟨⟨m, _⟩, ⟨member, chosen⟩, rfl⟩
    obtain rfl : m = n :=
      Option.some.inj ((List.mk_mem_zipIdx_iff_getElem?.mp member).symm.trans stored)
    exact chosen
  · intro chosen
    exact ⟨(n, index), ⟨List.mk_mem_zipIdx_iff_getElem?.mpr stored, chosen⟩, rfl⟩

theorem namesMarked (named : w.Names h n) :
    (w.marked mark).Names h (n.marked (mark h.index)) :=
  namesChanged (fun _ _ _ => rfl) named

theorem ShownFirst.marked {l : Locator} (first : w.ShownFirst l h n) :
    (w.marked mark).ShownFirst l h (n.marked (mark h.index)) := by
  refine first.changed (fun _ _ _ => rfl) (fun index n => ?_) first.shown
  exact congrArg (· && decide (n.frame = w.session.frame)) (n.isMatchMarked (mark index) l)

theorem valueMarked (named : w.Names h n) (name : String) :
    Sees (w.marked mark) (Check.ask (Host.attr h name)) (.ok (n.attr? name)) :=
  .ask (readSees (namesMarked named) _)

theorem selectedMarked (named : w.Names h n) :
    Sees (w.marked mark) (Check.ask (Host.isSelected h)) (.ok (mark h.index)) :=
  .ask (readSees (namesMarked named) _)

def valueAt (w : World) (index : Nat) : Option String :=
  w.session.nodes[index]?.bind fun n => n.attr? "value"

def having (w : World) (found : List Handle) (values : List String) : List Handle :=
  found.filter fun h => ∃ value ∈ values, w.valueAt h.index = some value

def Offers (w : World) (found : List Handle) (value : String) : Prop :=
  ∃ h ∈ found, w.valueAt h.index = some value

variable {found : List Handle} {value : String} {values : List String} {state : Bool}

theorem valueNamed (named : w.Names h n) : w.valueAt h.index = n.attr? "value" := by
  rw [valueAt, namedAt named]
  rfl

theorem valueAtMarked (index : Nat) : (w.marked mark).valueAt index = w.valueAt index := by
  rw [valueAt, marked, List.getElem?_mapIdx, valueAt]
  cases w.session.nodes[index]? <;> rfl

theorem havingIndex {index : Nat} : index ∈ (w.having found values).map Handle.index ↔
    index ∈ found.map Handle.index ∧ ∃ value ∈ values, w.valueAt index = some value := by
  simp only [having, List.mem_map, List.mem_filter, decide_eq_true_eq]
  constructor
  · rintro ⟨h, ⟨member, has⟩, rfl⟩
    exact ⟨⟨h, member, rfl⟩, has⟩
  · rintro ⟨⟨h, member, rfl⟩, has⟩
    exact ⟨h, ⟨member, has⟩, rfl⟩

theorem offersNamed {nodes : List Node} (named : List.Forall₂ w.Names found nodes) :
    w.Offers found value ↔ ∃ n ∈ nodes, n.attr? "value" = some value := by
  induction named with
  | nil => exact iff_of_false nofun nofun
  | cons first _ ih =>
    rw [Offers, List.exists_mem_cons_iff, List.exists_mem_cons_iff, ← ih, valueNamed first]
    rfl

theorem offersIff : w.Offers found value ↔ (w.having found [value]).isEmpty = false := by
  simp [Offers, having]

abbrev Press := Handle → (Nat → Bool) → Nat → Bool

def Pressed (w : World) (found : List Handle) (press : Press) : Prop :=
  ∀ h ∈ found, (∃ n, w.Names h n) ∧ ∀ mark,
    Check.ask (Host.click h) (w.marked mark) = .ok () (w.marked (press h mark))

def bring (press : Press) (state : Bool) (mark : Nat → Bool) (h : Handle) : Nat → Bool :=
  if mark h.index = state then mark else press h mark

def asked (w : World) (found : List Handle) (values : List String) : List Handle :=
  values.flatMap fun value => w.having found [value]

theorem askedIff : h ∈ w.asked found values ↔ h ∈ w.having found values := by
  simp only [asked, having, List.mem_flatMap, List.mem_filter, decide_eq_true_eq,
    List.mem_singleton, exists_eq_left]
  constructor
  · rintro ⟨value, listed, member, has⟩
    exact ⟨member, value, listed, has⟩
  · rintro ⟨member, value, listed, has⟩
    exact ⟨value, listed, member, has⟩

theorem askedLast {last : String} (offered : w.Offers found last)
    (final : values.getLast? = some last) :
    ∃ before h, w.asked found values = before ++ [h] ∧ h ∈ found ∧
      w.valueAt h.index = some last := by
  obtain ⟨others, rfl⟩ := List.getLast?_eq_some_iff.mp final
  have nonempty : w.having found [last] ≠ [] := by
    simp [List.isEmpty_eq_false_iff.mp (offersIff.mp offered)]
  obtain ⟨member, has⟩ := List.mem_filter.mp (List.getLast_mem nonempty)
  refine ⟨w.asked found others ++ (w.having found [last]).dropLast, _, ?_, member, ?_⟩
  · rw [List.append_assoc, List.dropLast_append_getLast nonempty, asked, List.flatMap_append,
      List.flatMap_singleton]
    rfl
  · simpa using has

variable {press : Press}

theorem bringNothing {asked : List Handle} (already : ∀ h ∈ asked, mark h.index = state) :
    asked.foldl (bring press state) mark = mark := by
  induction asked with
  | nil => rfl
  | cons h rest ih =>
    obtain ⟨first, others⟩ := List.forall_mem_cons.mp already
    rw [List.foldl_cons, bring, if_pos first, ih others]

theorem Pressed.rest (pressed : w.Pressed (h :: found) press) : w.Pressed found press :=
  (List.forall_mem_cons.mp pressed).2

theorem clickPicks (named : w.Names h n) (noEffects : n.onClick = []) :
    click h w = .ok () { w with session := w.session.pick h.index n } := by
  unfold click
  rw [show w.session.node w.now h = .ok n from named]
  simp only [noEffects, Session.applyAll]

theorem clickUnless {α : Type} {c : Prop} [Decidable c] (pressed : w.Pressed (h :: found) press)
    (differs : c ↔ mark h.index ≠ state) (next : Unit → Check World α) :
    (if c then Check.ask (Host.click h) >>= next else next ()) (w.marked mark) =
      next () (w.marked (bring press state mark h)) := by
  obtain ⟨-, clicked⟩ := pressed h List.mem_cons_self
  by_cases same : mark h.index = state
  · rw [if_neg (mt differs.mp (not_not.mpr same)), bring, if_pos same]
  · rw [if_pos (differs.mpr same), bindOfOk (clicked mark), bring, if_neg same]

theorem toggleValueMarks (pressed : w.Pressed found press) :
    Action.toggleValue value state found (w.marked mark) =
      .ok (!(w.having found [value]).isEmpty)
        (w.marked ((w.having found [value]).foldl (bring press state) mark)) := by
  induction found generalizing mark with
  | nil => rfl
  | cons h rest ih =>
    obtain ⟨⟨n, named⟩, -⟩ := pressed h List.mem_cons_self
    rw [Action.toggleValue, bindOfOk (valueMarked named "value"), ← valueNamed named]
    by_cases same : w.valueAt h.index = some value
    · have first : w.having (h :: rest) [value] = h :: w.having rest [value] :=
        List.filter_cons_of_pos (by simp [same])
      rw [if_pos same, bindOfOk (selectedMarked named), first, List.foldl_cons]
      exact (clickUnless pressed Iff.rfl _).trans (bindOfOk (ih pressed.rest) _)
    · have later : w.having (h :: rest) [value] = w.having rest [value] :=
        List.filter_cons_of_neg (by simp [same])
      rw [if_neg same, ih pressed.rest, later]

theorem toggleAppend (directive : String) (l : Locator) (pressed : w.Pressed found press)
    (offered : ∀ value ∈ values, w.Offers found value) (rest : List (Deferred String)) :
    Action.toggle directive l found state (values.map .value ++ rest) (w.marked mark) =
      Action.toggle directive l found state rest
        (w.marked ((w.asked found values).foldl (bring press state) mark)) := by
  induction values generalizing mark with
  | nil => rfl
  | cons value values ih =>
    obtain ⟨first, others⟩ := List.forall_mem_cons.mp offered
    rw [asked, List.flatMap_cons, List.foldl_append]
    refine (bindOfOk (toggleValueMarks pressed) _).trans ?_
    rw [offersIff.mp first]
    exact ih others

theorem toggleMarks (directive : String) (l : Locator) (pressed : w.Pressed found press)
    (offered : ∀ value ∈ values, w.Offers found value) :
    Action.toggle directive l found state (values.map .value) (w.marked mark) =
      .ok () (w.marked ((w.asked found values).foldl (bring press state) mark)) := by
  rw [← List.append_nil (values.map Deferred.value), toggleAppend directive l pressed offered]
  rfl

theorem toggleMissing (directive : String) (l : Locator) (pressed : w.Pressed found press)
    (missing : ¬ w.Offers found value) (rest : List (Deferred String)) :
    Action.toggle directive l found state (.value value :: rest) (w.marked mark) =
      .error (.noSuchElement directive (l.display ++ " with value `" ++ value ++ "`") 0)
        (w.marked mark) := by
  have none : w.having found [value] = [] :=
    List.isEmpty_iff.mp (eq_true_of_ne_false (mt offersIff.mpr missing))
  have toggled : Action.toggleValue value state found (w.marked mark) = _ :=
    toggleValueMarks pressed
  rw [none] at toggled
  exact bindOfOk toggled _

theorem toggleOffered (directive : String) (l : Locator) (pressed : w.Pressed found press)
    {v : World} (ended : Action.toggle directive l found state (values.map .value) (w.marked mark) =
      .ok () v) : ∀ value ∈ values, w.Offers found value := by
  induction values generalizing mark with
  | nil => exact List.forall_mem_nil _
  | cons value values ih =>
    by_cases offered : w.Offers found value
    · change Action.toggle directive l found state ([value].map .value ++ values.map .value) _ = _
        at ended
      rw [toggleAppend directive l pressed (List.forall_mem_singleton.mpr offered)] at ended
      exact List.forall_mem_cons.mpr ⟨offered, ih ended⟩
    · rw [List.map_cons, toggleMissing directive l pressed offered] at ended
      cases ended

theorem uncheckAllMarks (pressed : w.Pressed found press) :
    Action.uncheckAll found (w.marked mark) =
      .ok () (w.marked (found.foldl (bring press false) mark)) := by
  induction found generalizing mark with
  | nil => rfl
  | cons h rest ih =>
    obtain ⟨⟨n, named⟩, -⟩ := pressed h List.mem_cons_self
    have clicked : mark h.index = true ↔ mark h.index ≠ false := Bool.ne_false_iff.symm
    rw [Action.uncheckAll, bindOfOk (selectedMarked named), List.foldl_cons, ← ih pressed.rest]
    exact clickUnless pressed clicked _

structure Turns (w : World) (n : Node) : Prop where
  chosen : (n.tag = "input" ∧ n.attr? "type" = some "checkbox") ∨
    (n.tag = "option" ∧ w.session.allowsSeveral n = true)
  noEffects : n.onClick = []

def turn : Press := fun h mark => Function.update mark h.index !mark h.index

theorem Turns.picked (turns : w.Turns n) (index : Nat) :
    w.session.pick index n = w.session.changeAt index Session.flip := by
  rcases turns.chosen with ⟨tag, kind⟩ | ⟨tag, several⟩
  · simp [Session.pick, tag, kind]
  · simp [Session.pick, tag, several]

theorem allowsSeveralMarked (w : World) (mark : Nat → Bool) (n : Node) (own : Bool) :
    (w.marked mark).session.allowsSeveral (n.marked own) = w.session.allowsSeveral n := by
  unfold Session.allowsSeveral
  rw [Bool.eq_iff_iff, List.any_eq_true, List.any_eq_true]
  constructor
  · rintro ⟨_, member, fits⟩
    obtain ⟨index, bound, rfl⟩ := List.mem_mapIdx.mp member
    exact ⟨_, List.getElem_mem bound, fits⟩
  · rintro ⟨select, member, fits⟩
    obtain ⟨index, bound, rfl⟩ := List.mem_iff_getElem.mp member
    exact ⟨_, List.mem_mapIdx.mpr ⟨index, bound, rfl⟩, fits⟩

theorem Turns.marked (turns : w.Turns n) (own : Bool) : (w.marked mark).Turns (n.marked own) where
  chosen := turns.chosen.imp_right fun ⟨tag, several⟩ =>
    ⟨tag, (w.allowsSeveralMarked mark n own).trans several⟩
  noEffects := turns.noEffects

theorem clickMarked (named : w.Names h n) (turns : w.Turns n) :
    Check.ask (Host.click h) (w.marked mark) = .ok () (w.marked (turn h mark)) := by
  have nodes : ((w.marked mark).session.nodes.modify h.index Session.flip) =
      w.session.nodes.mapIdx fun index n => n.marked (turn h mark index) := by
    refine List.ext_getElem? fun index => ?_
    rw [List.getElem?_modify, marked, List.getElem?_mapIdx, List.getElem?_mapIdx]
    cases w.session.nodes[index]? with
    | none => rfl
    | some n =>
      by_cases here : h.index = index
      · subst here
        simp [Node.marked, Session.flip, turn]
      · simp [here, Ne.symm here, turn]
  have clicked : click h (w.marked mark) = .ok () (w.marked (turn h mark)) := by
    rw [clickPicks (namesMarked named) turns.noEffects, (turns.marked _).picked, Session.changeAt,
      nodes]
    rfl
  show Check.ask (click h) (w.marked mark) = _
  rw [Check.ask, clicked]

def Members (w : World) (found : List Handle) : Prop := ∀ h ∈ found, ∃ n, w.Names h n ∧ w.Turns n

theorem Members.pressed (members : w.Members found) : w.Pressed found turn := by
  intro h member
  obtain ⟨n, named, turns⟩ := members h member
  exact ⟨⟨n, named⟩, fun mark => clickMarked named turns⟩

def setting (found : List Handle) (state : Bool) (mark : Nat → Bool) (index : Nat) : Bool :=
  if index ∈ found.map Handle.index then state else mark index

theorem settingMember (member : h ∈ found) : setting found state mark h.index = state :=
  if_pos (List.mem_map_of_mem member)

theorem bringTurned : bring turn state mark h = Function.update mark h.index state := by
  by_cases same : mark h.index = state
  · rw [bring, if_pos same, ← same, Function.update_eq_self]
  · rw [bring, if_neg same, turn, Bool.eq_not.mpr (Ne.symm same)]

theorem settingEach : found.foldl (bring turn state) mark = setting found state mark := by
  induction found generalizing mark with
  | nil =>
    funext index
    exact (if_neg List.not_mem_nil).symm
  | cons h rest ih =>
    rw [List.foldl_cons, bringTurned, ih]
    funext index
    by_cases here : index = h.index
    · subst here
      simp [setting]
    · simp [setting, here]

theorem settingAsked : (w.asked found values).foldl (bring turn state) mark =
    setting (w.having found values) state mark := by
  rw [settingEach]
  funext index
  have same : index ∈ (w.asked found values).map Handle.index ↔
      index ∈ (w.having found values).map Handle.index := by
    simp only [List.mem_map, askedIff]
  simp only [setting, same]

end World

end PageCheck.Browser
