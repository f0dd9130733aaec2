import PageCheck.Proofs.GroupActions

/-!
Choices with one selected member: the options of a select that takes one, and the radio buttons of
one name. A click on a member selects it and deselects the others, so whatever members are clicked,
only the last click counts.
-/
namespace PageCheck

open Browser (World Handle Node)

theorem filterFew {α : Type} {p : α → Bool} {list : List α} {x : α}
    (few : (list.filter p).length ≤ 1) (member : x ∈ list) (holds : p x = true) :
    list.filter p = [x] := by
  have kept : x ∈ list.filter p := List.mem_filter.mpr ⟨member, holds⟩
  obtain ⟨y, only⟩ := List.length_eq_one_iff.mp (few.antisymm (List.length_pos_of_mem kept))
  rw [only] at kept ⊢
  rw [List.mem_singleton.mp kept]

theorem filterOne {α : Type} {p : α → Bool} {list : List α} {x : α} (index : Nat)
    (stored : list[index]? = some x) (holds : p x = true)
    (only : ∀ other y, list[other]? = some y → p y = true → other = index) :
    list.filter p = [x] := by
  induction list generalizing index with
  | nil => cases stored
  | cons first rest ih =>
    cases index with
    | zero =>
      cases stored
      have others : rest.filter p = [] := by
        refine List.filter_eq_nil_iff.mpr fun y member kept => ?_
        obtain ⟨other, stored⟩ := List.mem_iff_getElem?.mp member
        exact absurd (only (other + 1) y stored kept) (Nat.succ_ne_zero other)
      rw [List.filter_cons_of_pos holds, others]
    | succ index =>
      have dropped : ¬ p first = true := fun kept =>
        absurd (only 0 first rfl kept) (Nat.succ_ne_zero index).symm
      rw [List.filter_cons_of_neg dropped]
      exact ih index stored fun other y stored kept => Nat.succ.inj (only (other + 1) y stored kept)

inductive Choice where
  | options (parent : String)
  | radios (name : Option String)
  deriving DecidableEq, Repr

namespace Choice

def rivals (c : Choice) (n : Node) : Bool :=
  match c with
  | options parent => n.parent = some parent
  | radios name => n.attr? "type" = some "radio" && n.attr? "name" = name

def owns (c : Choice) (n : Node) : Bool :=
  match c with
  | options _ => c.rivals n
  | radios _ => n.tag = "input" && c.rivals n

def chosen (c : Choice) (page : World) : List Node :=
  page.session.nodes.filter fun n => c.owns n && n.selected

def isMember (c : Choice) (l : Locator) (page : World) (n : Node) : Bool :=
  match c with
  | options parent => n.isMatch Extract.optionLocator && n.parent = some parent
  | radios _ => n.isMatch l && n.frame = page.session.frame

def members (c : Choice) (l : Locator) (page : World) : List Node := page.present (c.isMember l page)

def found (c : Choice) (l : Locator) (page : World) : List Handle :=
  page.session.handles page.now (c.isMember l page)

structure Picks (c : Choice) (w : World) (n : Node) : Prop where
  kind : match c with
    | options parent =>
      n.tag = "option" ∧ n.parent = some parent ∧ w.session.allowsSeveral n = false
    | radios name => n.tag = "input" ∧ n.attr? "type" = some "radio" ∧ n.attr? "name" = name
  noEffects : n.onClick = []

def replace (c : Choice) (w : World) : World.Press := fun h mark index =>
  if (w.session.nodes[index]?).any c.rivals then index = h.index else mark index

variable {c : Choice} {w page : World} {l : Locator} {n : Node} {h k : Handle} {mark : Nat → Bool}
  {state : Bool} {asked : List Handle}

theorem Picks.owned (picks : c.Picks w n) : c.owns n = true ∧ c.rivals n = true := by
  have kind := picks.kind
  cases c with
  | options parent => simp_all [owns, rivals]
  | radios name => simp_all [owns, rivals]

theorem Picks.marked (picks : c.Picks w n) (own : Bool) : c.Picks (w.marked mark) (n.marked own) where
  kind := by
    have kind := picks.kind
    cases c with
    | options parent =>
      obtain ⟨tag, parent, single⟩ := kind
      exact ⟨tag, parent, (w.allowsSeveralMarked mark n own).trans single⟩
    | radios name => exact kind
  noEffects := picks.noEffects

theorem Picks.picked (picks : c.Picks w n) (index : Nat) :
    w.session.pick index n =
      (w.session.change c.rivals Browser.Session.deselect).changeAt index
        Browser.Session.choose := by
  have kind := picks.kind
  cases c with
  | options parent =>
    obtain ⟨tag, parent, single⟩ := kind
    simp [Browser.Session.pick, tag, parent, single]
    rfl
  | radios name =>
    obtain ⟨tag, radio, name⟩ := kind
    simp [Browser.Session.pick, tag, radio, name]
    rfl

theorem clickReplaces (named : w.Names h n) (picks : c.Picks w n) :
    Check.ask (Host.click h) (w.marked mark) = .ok () (w.marked (c.replace w h mark)) := by
  have blind (m : Node) (own : Bool) : c.rivals (m.marked own) = c.rivals m := by cases c <;> rfl
  have own : w.session.nodes[h.index]? = some n := World.namedAt named
  have nodes : (((w.marked mark).session.change c.rivals Browser.Session.deselect).nodes.modify
        h.index Browser.Session.choose) =
      w.session.nodes.mapIdx fun index n => n.marked (c.replace w h mark index) := by
    refine List.ext_getElem? fun index => ?_
    simp only [Browser.Session.change, World.marked, List.getElem?_modify, List.getElem?_map,
      List.getElem?_mapIdx, replace]
    cases stored : w.session.nodes[index]? with
    | none => rfl
    | some m =>
      simp only [Option.map_some, Option.map_eq_map, Option.any_some, blind]
      by_cases here : h.index = index
      · subst here
        cases own.symm.trans stored
        simp [picks.owned.2, Browser.Session.choose, Browser.Session.deselect, Node.marked]
      · rw [if_neg here]
        split
        · simp [Ne.symm here, Browser.Session.deselect, Node.marked]
        · rfl
  have clicked : World.click h (w.marked mark) = .ok () (w.marked (c.replace w h mark)) := by
    rw [World.clickPicks (World.namesMarked named) picks.noEffects, (picks.marked _).picked,
      Browser.Session.changeAt, nodes]
    rfl
  show Check.ask (World.click h) (w.marked mark) = _
  rw [Check.ask, clicked]

theorem replaceAgain : c.replace w h (c.replace w k mark) = c.replace w h mark := by
  funext index
  unfold replace
  split <;> rfl

theorem replaceMember (named : w.Names h n) (picks : c.Picks w n) :
    c.replace w k mark h.index = decide (h.index = k.index) := by
  rw [replace, World.namedAt named]
  exact if_pos picks.owned.2

theorem replaceSame (same : h.index = k.index) : c.replace w h mark = c.replace w k mark := by
  funext index
  rw [replace, replace, same]

theorem bringEither (c : Choice) (w : World) (state : Bool) (asked : List Handle)
    (mark : Nat → Bool) : asked.foldl (World.bring (c.replace w) state) mark = mark ∨
    ∃ k, asked.foldl (World.bring (c.replace w) state) mark = c.replace w k mark := by
  induction asked generalizing mark with
  | nil => exact .inl rfl
  | cons h rest ih =>
    rw [List.foldl_cons]
    by_cases same : mark h.index = state
    · rw [World.bring, if_pos same]
      exact ih mark
    · rw [World.bring, if_neg same]
      -- A later click leaves no trace of this one.
      rcases ih (c.replace w h mark) with unchanged | ⟨k, replaced⟩
      · exact .inr ⟨h, unchanged⟩
      · exact .inr ⟨k, replaced.trans replaceAgain⟩

theorem bringLast (asked : List Handle) (mark : Nat → Bool) (named : w.Names h n) (picks : c.Picks w n) :
    ((asked ++ [h]).foldl (World.bring (c.replace w) true) mark = mark ∧ mark h.index = true) ∨
      (asked ++ [h]).foldl (World.bring (c.replace w) true) mark = c.replace w h mark := by
  rw [List.foldl_append, List.foldl_cons, List.foldl_nil]
  rcases bringEither c w true asked mark with unchanged | ⟨k, replaced⟩
  · rw [unchanged, World.bring]
    by_cases selected : mark h.index = true
    · exact .inl ⟨if_pos selected, selected⟩
    · exact .inr (if_neg selected)
  · rw [replaced, World.bring, replaceMember named picks]
    by_cases same : h.index = k.index
    · rw [if_pos (decide_eq_true same), replaceSame same]
      exact .inr rfl
    · rw [if_neg (mt of_decide_eq_true same), replaceAgain]
      exact .inr rfl

theorem bringTwice (named : w.Names h n) (picks : c.Picks w n) :
    (asked ++ [h]).foldl (World.bring (c.replace w) true)
        ((asked ++ [h]).foldl (World.bring (c.replace w) true) mark) =
      (asked ++ [h]).foldl (World.bring (c.replace w) true) mark := by
  rcases bringLast asked mark named picks with ⟨unchanged, -⟩ | replaced
  · rw [unchanged, unchanged]
  · rw [replaced]
    rcases bringLast asked (c.replace w h mark) named picks with ⟨unchanged, -⟩ | replaced
    · exact unchanged
    · exact replaced.trans replaceAgain

theorem ownsMarked (n : Node) (own : Bool) : c.owns (n.marked own) = c.owns n := by
  cases c <;> rfl

theorem chosenAlone (named : w.Names h n) (picks : c.Picks w n) :
    c.chosen (w.marked (c.replace w h mark)) = [n.marked true] := by
  have nodes (index : Nat) : (w.marked (c.replace w h mark)).session.nodes[index]? =
      (w.session.nodes[index]?).map fun n => n.marked (c.replace w h mark index) :=
    List.getElem?_mapIdx
  have own : c.replace w h mark h.index = true := by
    rw [replaceMember named picks, decide_eq_true_iff]
  refine filterOne h.index ?_ ?_ fun other y stored kept => ?_
  · rw [nodes, World.namedAt named, Option.map_some, own]
  · rw [ownsMarked, picks.owned.1]
    rfl
  · rw [nodes] at stored
    obtain ⟨m, atOther, rfl⟩ := Option.map_eq_some_iff.mp stored
    obtain ⟨owned, selected⟩ := Bool.and_eq_true_iff.mp kept
    rw [ownsMarked] at owned
    have rival : c.rivals m = true := by
      cases c with
      | options parent => exact owned
      | radios name => exact (Bool.and_eq_true_iff.mp owned).2
    change c.replace w h mark other = true at selected
    rw [replace, atOther] at selected
    exact of_decide_eq_true ((if_pos rival).symm.trans selected)

theorem bringSelects (named : w.Names h n) (picks : c.Picks w n) :
    (asked ++ [h]).foldl (World.bring (c.replace w) true) mark h.index = true := by
  rcases bringLast asked mark named picks with ⟨unchanged, selected⟩ | replaced
  · rw [unchanged, selected]
  · rw [replaced, replaceMember named picks, decide_eq_true_iff]

theorem chosenFinally (named : w.Names h n) (picks : c.Picks w n) (single : (c.chosen w).length ≤ 1) :
    c.chosen (w.marked ((asked ++ [h]).foldl (World.bring (c.replace w) true) w.marks)) =
      [n.marked true] := by
  have stored := World.namedAt named
  rcases bringLast asked w.marks named picks with ⟨unchanged, selected⟩ | replaced
  · have own : n.selected = true := by
      rw [World.marks, stored] at selected
      exact selected
    have same : n.marked true = n := by rw [← own]; rfl
    rw [unchanged, w.markedMarks, same]
    exact filterFew single (List.mem_of_getElem? stored) (by rw [picks.owned.1, own]; rfl)
  · rw [replaced, chosenAlone named picks]

inductive Suited (l : Locator) (page : World) (first : Node) : Choice → Prop where
  | options {parent} (tag : first.tag = "select") (named : (first.attr? "id").getD "" = parent)
      (single : ∀ n ∈ page.session.nodes, n.tag = "select" → n.attr? "id" = some parent →
        n.attr? "multiple" = none) :
      Suited l page first (options parent)
  | radios {name} (each : ∀ n ∈ page.matching l,
        n.tag = "input" ∧ n.attr? "type" = some "radio" ∧ n.attr? "name" = name) :
      Suited l page first (radios name)

def deed (values : List String) : Choice → GroupDeed
  | options _ => .select values
  | radios _ => .check values

def group (c : Choice) : Group := (c.deed []).group

def perform (c : Choice) (settings : CheckSettings) (l : Locator) (timeout : Option Nat)
    (values : List String) : Check World Unit :=
  Action.perform settings { deed := (c.deed values).deed l, timeout }

variable {first : Node} {others : List Node} {settings : CheckSettings} {time : Nat}
  {timeout : Option Nat} {values : List String} {last : String}

theorem Suited.picks (suited : c.Suited l page first)
    (quiet : ∀ n ∈ c.members l page, n.onClick = []) (member : n ∈ c.members l page) :
    c.Picks page n := by
  refine ⟨?_, quiet n member⟩
  cases suited with
  | options tag named single =>
    obtain ⟨option, own⟩ := Group.optionPresent member
    refine ⟨option, own, List.any_eq_false.mpr fun m stored several => ?_⟩
    simp only [Bool.and_eq_true, decide_eq_true_eq] at several
    obtain ⟨⟨select, sameId⟩, several⟩ := several
    rw [single m stored select (sameId.trans own)] at several
    cases several
  | radios each => exact each n member

theorem Suited.pressed (suited : c.Suited l page first)
    (quiet : ∀ n ∈ c.members l page, n.onClick = []) :
    page.Pressed (c.found l page) (c.replace page) := by
  intro h member
  obtain ⟨n, present, named⟩ := World.handleNamed member
  exact ⟨⟨n, named⟩, fun _ => clickReplaces named (suited.picks quiet present)⟩

theorem foundMarked (mark : Nat → Bool) : c.found l (page.marked mark) = c.found l page := by
  refine World.handlesMarked fun m own => ?_
  cases c with
  | options parent => exact congrArg (· && decide (m.parent = _)) (m.isMatchMarked own _)
  | radios name => exact congrArg (· && decide (m.frame = page.session.frame)) (m.isMatchMarked own l)

theorem markedMember (mark : Nat → Bool) (member : h ∈ c.found l page) (named : page.Names h n) :
    n.marked (mark h.index) ∈ c.members l (page.marked mark) := by
  obtain ⟨m, still, names⟩ := World.handleNamed (foundMarked mark ▸ member)
  cases names.symm.trans (World.namesMarked named)
  exact still

theorem gathers (directive : String) (located : c.group.Located settings l time w page)
    (matched : page.matching l = first :: others)
    (heads : ∀ parent, c = .options parent → (first.attr? "id").getD "" = parent) :
    c.group.gather settings directive l time w = .ok (c.found l page) page := by
  cases c with
  | options parent =>
    change Group.options.Located settings l time w page at located
    cases located with
    | options ended =>
      obtain ⟨-, n, shown⟩ := World.elementFound ended
      obtain ⟨_, matched'⟩ := shown.matching
      cases matched.symm.trans matched'
      refine (Group.optionsAwaited ended shown.named).trans ?_
      rw [heads parent rfl]
      rfl
  | radios name =>
    change Group.boxes.Located settings l time w page at located
    cases located with
    | boxes ended =>
      obtain ⟨-, rfl, -⟩ := World.elementsFound ended
      exact bindOfOk ended _

theorem Suited.heads (suited : c.Suited l page first) (parent : String)
    (options : c = .options parent) : (first.attr? "id").getD "" = parent := by
  subst options
  cases suited with
  | options _ named _ => exact named

theorem performs (located : c.group.Located settings l (timeout.getD settings.timeout) w page)
    (matched : page.matching l = first :: others)
    (heads : ∀ parent, c = .options parent → (first.attr? "id").getD "" = parent)
    {result : EStateM.Result Failure World Unit}
    (toggled : Action.toggle ((c.deed values).deed l).directive l (c.found l page) true
      (values.map .value) page = result) :
    c.perform settings l timeout values w = result := by
  have gathered := gathers ((c.deed values).deed l).directive located matched heads
  rw [perform, GroupDeed.performed]
  refine (bindOfOk rfl _).trans ?_
  cases c with
  | options parent => exact (bindOfOk gathered _).trans toggled
  | radios name => exact (bindOfOk gathered _).trans toggled

/-- The last requested value is the one that is selected in the end, and asking again changes
nothing. -/
theorem lastValueWins (c : Choice) (settings : CheckSettings) (l : Locator) (timeout : Option Nat)
    (values : List String) {page : World} {first : Node} {others : List Node} {last : String}
    (matched : page.matching l = first :: others) (displayed : first.hidden = false)
    (suited : c.Suited l page first) (quiet : ∀ n ∈ c.members l page, n.onClick = [])
    (single : (c.chosen page).length ≤ 1) (final : values.getLast? = some last)
    (offered : ∀ value ∈ values, ∃ n ∈ c.members l page, n.attr? "value" = some value) :
    ∃ after n, c.perform settings l timeout values page = .ok () after ∧
      (∀ w, c.group.Located settings l (timeout.getD settings.timeout) w page →
        c.perform settings l timeout values w = .ok () after) ∧
      c.chosen after = [n] ∧ n ∈ c.members l after ∧ n.attr? "value" = some last ∧
      after = page.marked after.marks ∧
      c.perform settings l timeout values after = .ok () after := by
  obtain ⟨firstHandle, shown⟩ := World.ShownFirst.ofMatching matched displayed
  have pressed := suited.pressed quiet
  have offers : ∀ value ∈ values, page.Offers (c.found l page) value := fun value listed =>
    (World.offersNamed (page.handlesName _)).mpr (offered value listed)
  -- For all marks, since the action is performed again on the page that it leaves.
  have run (mark : Nat → Bool) : (w : World) →
      c.group.Located settings l (timeout.getD settings.timeout) w (page.marked mark) →
      c.perform settings l timeout values w = .ok () (page.marked
        ((page.asked (c.found l page) values).foldl (World.bring (c.replace page) true) mark)) := by
    intro w located
    obtain ⟨_, matched'⟩ := shown.marked.matching
    refine performs located matched' suited.heads ?_
    rw [foundMarked]
    exact World.toggleMarks _ l pressed offers
  have listed : last ∈ values := List.mem_of_getLast? final
  obtain ⟨before, h, split, member, value⟩ := World.askedLast (offers last listed) final
  obtain ⟨n, present, named⟩ := World.handleNamed member
  have picks := suited.picks quiet present
  rw [split] at run
  generalize ended : (before ++ [h]).foldl (World.bring (c.replace page) true) page.marks = mark
  have own : mark h.index = true := ended ▸ bringSelects named picks
  have start : page.marked page.marks = page := page.markedMarks
  have ran (w : World) (located : c.group.Located settings l (timeout.getD settings.timeout) w page) :
      c.perform settings l timeout values w = .ok () (page.marked mark) :=
    ended ▸ run page.marks w (start.symm ▸ located)
  refine ⟨page.marked mark, n.marked true, ran page (Group.locatedAtOnce settings _ shown), ran,
    ended ▸ chosenFinally named picks single, own ▸ markedMember mark member named,
    (World.valueNamed named).symm.trans value, (page.marksOfMarked mark).symm, ?_⟩
  rw [run mark _ (Group.locatedAtOnce settings _ shown.marked), ← ended, bringTwice named picks]

def counter : World :=
  { session := { Browser.Session.start [] with
      nodes := [sizes, option "s" true, option "m" false, option "l" false, milk "oat" false,
        milk "cow" true] }
    now := 0 }
where
  sizes : Node := ⟨"select", "", [("id", "size")], false, false, none, none, none, none, []⟩
  option (value : String) (selected : Bool) : Node :=
    ⟨"option", value, [("value", value)], selected, false, some "size", none, none, none, []⟩
  milk (value : String) (selected : Bool) : Node :=
    ⟨"input", "", [("name", "milk"), ("type", "radio"), ("value", value)], selected, false, none,
      none, none, none, []⟩

def size : Locator := { strategy := .id, selector := "size" }

def milk : Locator := { strategy := .name, selector := "milk" }

theorem lastValueWinsAtCounter :
    (∃ after n, (options "size").perform .default size none ["m", "s", "m", "s"] counter =
        .ok () after ∧
      (options "size").chosen after = [n] ∧ n.attr? "value" = some "s" ∧
      (options "size").perform .default size none ["m", "s", "m", "s"] after = .ok () after) ∧
    ∃ after n, (radios (some "milk")).perform .default milk none ["cow", "oat"] counter =
        .ok () after ∧
      (radios (some "milk")).chosen after = [n] ∧ n.attr? "value" = some "oat" ∧
      (radios (some "milk")).perform .default milk none ["cow", "oat"] after = .ok () after := by
  have sizes : Suited size counter counter.sizes (options "size") := .options rfl rfl (by decide)
  have milks : Suited milk counter (counter.milk "oat" false) (radios (some "milk")) :=
    .radios (by decide)
  obtain ⟨_, n, done, -, only, -, value, -, again⟩ := lastValueWins (options "size") .default size
    none ["m", "s", "m", "s"] rfl rfl sizes (by decide) (by decide) rfl (by decide)
  obtain ⟨_, n', done', -, only', -, value', -, again'⟩ := lastValueWins (radios (some "milk"))
    .default milk none ["cow", "oat"] rfl rfl milks (by decide) (by decide) rfl
    (by decide)
  exact ⟨⟨_, n, done, only, value, again⟩, ⟨_, n', done', only', value', again'⟩⟩

end Choice

end PageCheck
