import PageCheck.Proofs.Unclicked

/-!
Actions on groups: the boxes that a locator finds, or the options of a select that takes several. An
action selects or deselects exactly the members with the requested values, and fails on the first
value that no member has. Done again, it clicks nothing.
-/
namespace PageCheck

open Browser (World Recorded Handle Node)

inductive Group where
  | boxes
  | options
  deriving DecidableEq, Repr

namespace Group

def isMember (g : Group) (l : Locator) (page : World) (n : Node) : Bool :=
  match g with
  | boxes => n.isMatch l && n.frame = page.session.frame
  | options => n.isMatch Extract.optionLocator &&
      n.parent = (page.matching l).head?.bind fun select => select.attr? "id"

def members (g : Group) (l : Locator) (page : World) : List Node := page.present (g.isMember l page)

def found (g : Group) (l : Locator) (page : World) : List Handle :=
  page.session.handles page.now (g.isMember l page)

inductive Located (settings : CheckSettings) (l : Locator) (time : Nat) (w page : World) :
    Group → Prop where
  | boxes {elements : List Handle}
      (ended : Wait.elements l none { timeout := time, interval := settings.interval } w =
        .ok (.ready elements) page) : Located settings l time w page boxes
  | options {select : Handle} (ended : Wait.element l time w = .ok select page) :
      Located settings l time w page options

inductive Suited (l : Locator) (page : World) : Group → Prop where
  | boxes (each : ∀ n ∈ page.matching l, n.tag = "input" ∧ n.attr? "type" = some "checkbox") :
      Suited l page boxes
  | options {select : Node} {others : List Node} {id : String}
      (first : page.matching l = select :: others) (tag : select.tag = "select")
      (named : select.attr? "id" = some id) (several : (select.attr? "multiple").isSome = true) :
      Suited l page options

def gather {σ E : Type} [Host σ E] (g : Group) (settings : CheckSettings) (directive : String)
    (l : Locator) (time : Nat) : Check σ (List E) :=
  match g with
  | boxes => Action.awaitGroup settings directive l time
  | options => Action.awaitOptions directive l time

variable {g : Group} {settings : CheckSettings} {directive : String} {l : Locator} {time : Nat}
  {w page : World} {n : Node} {h : Handle}

theorem optionPresent {parent : Option String} (member : n ∈ page.present fun m =>
      m.isMatch Extract.optionLocator && m.parent = parent) : n.tag = "option" ∧ n.parent = parent := by
  obtain ⟨-, chosen⟩ := List.mem_filter.mp member
  obtain ⟨-, both⟩ := Bool.and_eq_true_iff.mp chosen
  obtain ⟨option, own⟩ := Bool.and_eq_true_iff.mp both
  exact ⟨of_decide_eq_true (n.isOption ▸ option), of_decide_eq_true own⟩

theorem Suited.turns (suited : g.Suited l page) (quiet : ∀ n ∈ g.members l page, n.onClick = [])
    (member : n ∈ g.members l page) : page.Turns n := by
  refine ⟨?_, quiet n member⟩
  cases suited with
  | boxes each => exact .inl (each n member)
  | @options select others id first tag named several =>
    obtain ⟨option, parent⟩ := optionPresent member
    have own : n.parent = select.attr? "id" := by
      rw [parent, first]
      rfl
    have stored : select ∈ page.session.nodes :=
      (List.mem_filter.mp (first ▸ List.mem_cons_self : select ∈ page.matching l)).1
    refine .inr ⟨option, List.any_eq_true.mpr ⟨select, stored, ?_⟩⟩
    simp [tag, own, several]

theorem Suited.clickable (suited : g.Suited l page)
    (quiet : ∀ n ∈ g.members l page, n.onClick = []) : page.Members (g.found l page) := by
  intro h member
  obtain ⟨n, present, named⟩ := World.handleNamed member
  exact ⟨n, named, suited.turns quiet present⟩

theorem Located.pass (located : g.Located settings l time w page) :
    ∃ elapsed, page = w.pass elapsed := by
  cases located with
  | boxes ended => exact (World.elementsFound ended).1
  | options ended => exact (World.elementFound ended).1

theorem Located.shown (located : g.Located settings l time w page) :
    ∃ h n, page.ShownFirst l h n := by
  cases located with
  | boxes ended => exact (World.elementsFound ended).2.2
  | options ended => exact ⟨_, (World.elementFound ended).2⟩

theorem locatedAtOnce (settings : CheckSettings) (time : Nat) (first : page.ShownFirst l h n) :
    g.Located settings l time page page := by
  cases g with
  | boxes =>
    have seen := first.seen ▸ page.lookForElementsSees l none
    obtain ⟨_, ended, rfl⟩ :=
      Yields.run { timeout := time, interval := settings.interval } (.ofSees seen) page rfl
    exact .boxes ended
  | options => exact .options (first.element time)

theorem optionsFound {id : String} (first : page.ShownFirst l h n)
    (named : n.attr? "id" = some id) :
    page.session.findWithin page.now ((n.attr? "id").getD "") Extract.optionLocator =
      Group.options.found l page := by
  obtain ⟨others, located⟩ := first.matching
  have own : Group.options.isMember l page = fun m =>
      m.isMatch Extract.optionLocator && m.parent = some ((n.attr? "id").getD "") := by
    funext m
    rw [isMember, located, List.head?_cons, Option.bind_some, named]
    rfl
  rw [found, own]
  rfl

theorem optionsAwaited (ended : Wait.element l time w = .ok h page) (named : page.Names h n) :
    Action.awaitOptions directive l time w =
      .ok (page.session.findWithin page.now ((n.attr? "id").getD "") Extract.optionLocator)
        page := by
  refine (bindOfOk (World.elementAwaited directive ended) _).trans ?_
  show Check.ask (World.findWithin h Extract.optionLocator) page = _
  rw [Check.ask, World.findWithinNamed named]

theorem Suited.hasId (suited : g.Suited l page) (first : page.ShownFirst l h n)
    (options : g = .options) : ∃ id, n.attr? "id" = some id := by
  obtain ⟨others, located⟩ := first.matching
  cases suited with
  | boxes each => cases options
  | options own _ named _ =>
    cases located.symm.trans own
    exact ⟨_, named⟩

theorem Located.gathers (located : g.Located settings l time w page) (suited : g.Suited l page) :
    g.gather settings directive l time w = .ok (g.found l page) page := by
  cases located with
  | boxes ended =>
    obtain ⟨-, rfl, -⟩ := World.elementsFound ended
    exact bindOfOk ended _
  | @options select ended =>
    obtain ⟨-, n, first⟩ := World.elementFound ended
    obtain ⟨id, named⟩ := suited.hasId first rfl
    exact optionsFound first named ▸ optionsAwaited ended first.named

theorem gatherYields {before : List Browser.Call} (first : page.ShownFirst l h n)
    (named : g = .options → ∃ id, n.attr? "id" = some id) :
    Yields (Browser.Unclicked page before)
      (g.gather settings directive l time : Check (Recorded World) _) (g.found l page) := by
  cases g with
  | boxes => exact (Yields.run _ (Browser.Unclicked.lookForElements first)).bind (.pure _)
  | options =>
    obtain ⟨id, named⟩ := named rfl
    have awaited : Yields (Browser.Unclicked page before)
        (Action.awaitElement directive l time : Check (Recorded World) _) h :=
      (Yields.attempt (Browser.Unclicked.element first time)).bind (.pure _)
    have found := optionsFound first named ▸ World.findWithinNamed first.named _
    exact awaited.bind (.ask (Browser.Unclicked.call (by decide) found))

variable {mark : Nat → Bool}

theorem isMemberMarked (first : page.ShownFirst l h n) :
    g.isMember l (page.marked mark) = g.isMember l page := by
  cases g with
  | boxes => rfl
  | options =>
    obtain ⟨others, located⟩ := first.matching
    obtain ⟨others', located'⟩ := (first.marked : (page.marked mark).ShownFirst l h _).matching
    funext m
    rw [isMember, isMember, located, located']
    rfl

theorem foundMarked (first : page.ShownFirst l h n) :
    g.found l (page.marked mark) = g.found l page := by
  have blind (m : Node) (own : Bool) : g.isMember l page (m.marked own) = g.isMember l page m := by
    cases g with
    | boxes => exact congrArg (· && decide (m.frame = page.session.frame)) (m.isMatchMarked own l)
    | options => exact congrArg (· && decide (m.parent = _)) (m.isMatchMarked own _)
  rw [found, isMemberMarked first]
  exact World.handlesMarked blind

end Group

inductive GroupDeed where
  | check (values : List String)
  | clear
  | select (values : List String)
  | unselect (values : List String)
  deriving DecidableEq, Repr

namespace GroupDeed

def group : GroupDeed → Group
  | check _ | clear => .boxes
  | select _ | unselect _ => .options

def deed (l : Locator) : GroupDeed → Deed
  | check values => .check (.value l) (values.map .value)
  | clear => .clear (.value l) .checkbox
  | select values => .select (.value l) (values.map .value)
  | unselect values => .unselect (.value l) (values.map .value)

def requested : GroupDeed → List String
  | check values | select values | unselect values => values
  | clear => []

def state : GroupDeed → Bool
  | check _ | select _ => true
  | clear | unselect _ => false

def chooses (g : GroupDeed) (values : List String) (n : Node) : Bool :=
  let asked := values.any fun value => n.attr? "value" = some value
  match g with
  | check _ | select _ => n.selected || asked
  | unselect _ => n.selected && !asked
  | clear => false

def choose (g : GroupDeed) (l : Locator) (values : List String) (page : World) : World :=
  let belongs (n : Node) : Bool := page.session.isPresent page.now n && g.group.isMember l page n
  let chosen (n : Node) : Node := { n with selected := g.chooses values n }
  { page with session := page.session.change belongs chosen }

def Offered (g : GroupDeed) (l : Locator) (page : World) (value : String) : Prop :=
  ∃ n ∈ g.group.members l page, n.attr? "value" = some value

instance (g : GroupDeed) (l : Locator) (page : World) (value : String) :
    Decidable (g.Offered l page value) :=
  inferInstanceAs (Decidable (∃ n ∈ g.group.members l page, n.attr? "value" = some value))

def settle {σ E : Type} [Host σ E] (g : GroupDeed) (directive : String) (l : Locator)
    (found : List E) : Check σ Unit :=
  match g with
  | check values | select values => Action.toggle directive l found true (values.map .value)
  | unselect values => Action.toggle directive l found false (values.map .value)
  | clear => Action.uncheckAll found

def reached (g : GroupDeed) (l : Locator) (values : List String) (page : World) : List Handle :=
  match g with
  | clear => g.group.found l page
  | _ => page.having (g.group.found l page) values

theorem performed {σ E : Type} [Host σ E] (g : GroupDeed) (settings : CheckSettings) (l : Locator)
    (timeout : Option Nat) :
    (Action.perform settings { deed := g.deed l, timeout } : Check σ Unit) = (do
      Check.emit (.performing (g.deed l).directive)
      let found ← g.group.gather settings (g.deed l).directive l (timeout.getD settings.timeout)
      g.settle (g.deed l).directive l found) := by
  have literal (next : Locator → Check σ Unit) :
      (Check.ofExcept (Deferred.value l).get >>= next) = next l := rfl
  cases g with
  | _ =>
    simp only [Action.perform, deed, Action.carryOut, literal]
    rfl

variable {g : GroupDeed} {l : Locator} {page : World} {values : List String} {directive : String}
  {n : Node} {h : Handle}

theorem chooseMarked : g.choose l values page =
    page.marked (World.setting (g.reached l values page) g.state page.marks) := by
  refine (World.changeMarked fun index n stored => ?_).symm
  have mark : page.marks index = n.selected := by
    rw [World.marks, stored]
    rfl
  have value : page.valueAt index = n.attr? "value" := by
    rw [World.valueAt, stored]
    rfl
  have member := World.handlesIndex (p := g.group.isMember l page) stored
  have asked : (∃ value ∈ values, page.valueAt index = some value) ↔
      (values.any fun value => n.attr? "value" = some value) = true := by
    simp [value]
  cases g with
  | clear =>
    simp only [World.setting, reached, Group.found, member, mark]
    rfl
  | _ =>
    simp only [World.setting, reached, World.havingIndex, Group.found, member, mark, asked, chooses,
      state]
    split <;> simp_all

theorem settles (clickable : page.Members (g.group.found l page))
    (offered : ∀ value ∈ g.requested, page.Offers (g.group.found l page) value) :
    g.settle directive l (g.group.found l page) page = .ok () (g.choose l g.requested page) := by
  have marks (mark : Nat → Bool) :
      g.settle directive l (g.group.found l page) (page.marked mark) =
        .ok () (page.marked (World.setting (g.reached l g.requested page) g.state mark)) := by
    cases g with
    | clear =>
      rw [← World.settingEach]
      exact World.uncheckAllMarks clickable.pressed
    | _ =>
      simp only [reached, ← World.settingAsked]
      exact World.toggleMarks directive l clickable.pressed offered
  rw [chooseMarked, ← marks, page.markedMarks]

theorem settleMissing {before after : List String} {missing : String}
    (clickable : page.Members (g.group.found l page))
    (split : g.requested = before ++ missing :: after)
    (offered : ∀ value ∈ before, page.Offers (g.group.found l page) value)
    (none : ¬ page.Offers (g.group.found l page) missing) :
    g.settle directive l (g.group.found l page) page =
      .error (.noSuchElement directive (l.display ++ " with value `" ++ missing ++ "`") 0)
        (g.choose l before page) := by
  have marks (mark : Nat → Bool) :
      g.settle directive l (g.group.found l page) (page.marked mark) =
        .error (.noSuchElement directive (l.display ++ " with value `" ++ missing ++ "`") 0)
          (page.marked (World.setting (g.reached l before page) g.state mark)) := by
    have toggled (state : Bool) :
        Action.toggle directive l (g.group.found l page) state
            ((before ++ missing :: after).map .value) (page.marked mark) =
          .error (.noSuchElement directive (l.display ++ " with value `" ++ missing ++ "`") 0)
            (page.marked
              (World.setting (page.having (g.group.found l page) before) state mark)) := by
      rw [List.map_append, World.toggleAppend directive l clickable.pressed offered,
        ← World.settingAsked]
      exact World.toggleMissing directive l clickable.pressed none _
    cases g with
    | clear => simp [requested] at split
    | _ =>
      cases split
      exact toggled _
  rw [chooseMarked, ← marks, page.markedMarks]

theorem settleYields {calls : List Browser.Call}
    (clickable : page.Members (g.group.found l page))
    (offered : ∀ value ∈ g.requested, page.Offers (g.group.found l page) value) :
    Yields (Browser.Unclicked (g.choose l g.requested page) calls)
      (g.settle directive l (g.group.found l page) : Check (Recorded World) _) () := by
  rw [chooseMarked]
  have stillOffered : ∀ value ∈ g.requested,
      (page.marked (World.setting (g.reached l g.requested page) g.state page.marks)).Offers
        (g.group.found l page) value := by
    intro value listed
    obtain ⟨h, member, same⟩ := offered value listed
    exact ⟨h, member, (World.valueAtMarked _).trans same⟩
  cases g with
  | clear =>
    refine Browser.Unclicked.uncheckAll fun h member => ?_
    obtain ⟨n, named, -⟩ := clickable h member
    exact ⟨_, World.namesMarked named, World.settingMember member⟩
  | _ =>
    refine Browser.Unclicked.toggle directive l stillOffered fun h member => ?_
    obtain ⟨n, named, -⟩ := clickable h member
    refine ⟨_, World.namesMarked named, fun value listed same => World.settingMember ?_⟩
    refine List.mem_filter.mpr ⟨member, decide_eq_true ⟨value, listed, ?_⟩⟩
    exact (World.valueNamed named).trans same

theorem performsAgain {settings : CheckSettings} {timeout : Option Nat} {calls : List Browser.Call}
    (first : page.ShownFirst l h n) (suited : g.group.Suited l page)
    (clickable : page.Members (g.group.found l page))
    (offered : ∀ value ∈ g.requested, page.Offers (g.group.found l page) value) :
    Yields (Browser.Unclicked (g.choose l g.requested page) calls)
      (Action.perform settings { deed := g.deed l, timeout } : Check (Recorded World) _) () := by
  have gathers : Yields (Browser.Unclicked (g.choose l g.requested page) calls)
      (g.group.gather settings (g.deed l).directive l (timeout.getD settings.timeout) :
        Check (Recorded World) _) (g.group.found l page) := by
    have named : g.group = .options → ∃ id, n.attr? "id" = some id := suited.hasId first
    rw [chooseMarked, ← Group.foundMarked first]
    exact Group.gatherYields first.marked named
  rw [performed]
  exact (Browser.Unclicked.emit _).bind (gathers.bind (settleYields clickable offered))

/-- Exactly the members with the requested values are brought into the state, once and for all. -/
theorem setsExactly (settings : CheckSettings) (timeout : Option Nat) {w : World}
    (located : g.group.Located settings l (timeout.getD settings.timeout) w page)
    (suited : g.group.Suited l page) (quiet : ∀ n ∈ g.group.members l page, n.onClick = []) :
    (∃ elapsed, page = w.pass elapsed) ∧
    ((∀ value ∈ g.requested, g.Offered l page value) →
      Action.perform settings { deed := g.deed l, timeout } w =
        .ok () (g.choose l g.requested page) ∧
      ∀ r : Recorded World, r.host = g.choose l g.requested page → r.faults = [] →
        ∃ again made, Action.perform settings { deed := g.deed l, timeout } r = .ok () again ∧
          again.host = r.host ∧ again.calls = r.calls ++ made ∧
          ∀ call ∈ made, call.name ≠ "click") ∧
    (∀ before missing after, g.requested = before ++ missing :: after →
      (∀ value ∈ before, g.Offered l page value) → ¬ g.Offered l page missing →
      Action.perform settings { deed := g.deed l, timeout } w =
        .error (.noSuchElement (g.deed l).directive
          (l.display ++ " with value `" ++ missing ++ "`") 0) (g.choose l before page)) := by
  have clickable := suited.clickable quiet
  have offers (value : String) :
      page.Offers (g.group.found l page) value ↔ g.Offered l page value :=
    World.offersNamed (page.handlesName _)
  have gathered {next : List Handle → Check World Unit} {result}
      (ended : next (g.group.found l page) page = result) :
      (do
        Check.emit (.performing (g.deed l).directive)
        let found ← g.group.gather settings (g.deed l).directive l
          (timeout.getD settings.timeout)
        next found) w = result :=
    (bindOfOk rfl _).trans ((bindOfOk (located.gathers suited) _).trans ended)
  refine ⟨located.pass, fun offered => ⟨?once, fun r host faultless => ?again⟩, ?missing⟩
  case once =>
    rw [performed]
    exact gathered (settles clickable fun value listed => (offers value).mpr (offered value listed))
  case again =>
    obtain ⟨h, n, first⟩ := located.shown
    have yields : Yields (Browser.Unclicked (g.choose l g.requested page) r.calls)
        (Action.perform settings { deed := g.deed l, timeout }) () :=
      performsAgain first suited clickable fun value listed =>
        (offers value).mpr (offered value listed)
    obtain ⟨again, ran, unclicked⟩ :=
      yields r ⟨host, faultless, [], (List.append_nil _).symm, nofun⟩
    obtain ⟨made, calls, others⟩ := unclicked.calls
    exact ⟨again, made, ran, unclicked.host.trans host.symm, calls, others⟩
  case missing =>
    intro before missing after split offered none
    rw [performed]
    refine gathered (settleMissing clickable split (fun value listed => ?_) (mt (offers _).mp none))
    exact (offers value).mpr (offered value listed)

end GroupDeed

def orchard : World :=
  { session := { Browser.Session.start [] with
      nodes := [box "pear" false, box "plum" true, box "pear" true, kinds, option "sweet" true,
        option "sour" true] }
    now := 0 }
where
  kinds : Node :=
    ⟨"select", "", [("id", "kind"), ("multiple", "")], false, false, none, none, none, none, []⟩
  box (value : String) (selected : Bool) : Node :=
    ⟨"input", "", [("name", "fruit"), ("type", "checkbox"), ("value", value)], selected, false, none,
      none, none, none, []⟩
  option (value : String) (selected : Bool) : Node :=
    ⟨"option", value, [("value", value)], selected, false, some "kind", none, none, none, []⟩

def fruit : Locator := { strategy := .name, selector := "fruit" }

def kind : Locator := { strategy := .id, selector := "kind" }

theorem setsExactlyInOrchard :
    (∃ after, Action.perform .default ⟨.check (.value fruit) [.value "pear", .value "pear"], none⟩
        orchard = .ok () after ∧
      after.session.nodes.map Node.selected = [true, true, true, false, true, true]) ∧
    (∃ after, Action.perform .default
        ⟨.check (.value fruit) [.value "pear", .value "fig", .value "plum"], none⟩ orchard =
        .error (.noSuchElement "check" "By(name, fruit) with value `fig`" 0) after ∧
      after.session.nodes.map Node.selected = [true, true, true, false, true, true]) ∧
    (∃ after, Action.perform .default ⟨.unselect (.value kind) [.value "sour"], none⟩ orchard =
        .ok () after ∧
      after.session.nodes.map Node.selected = [false, true, true, false, true, false] ∧
      ∃ again, Action.perform .default ⟨.unselect (.value kind) [.value "sour"], none⟩
          (Recorded.start after []) = .ok () again ∧
        ∀ call ∈ again.calls, call.name ≠ "click") := by
  obtain ⟨_, firstBox⟩ : ∃ h, orchard.ShownFirst fruit h (orchard.box "pear" false) :=
    World.ShownFirst.ofMatching rfl rfl
  obtain ⟨_, theSelect⟩ : ∃ h, orchard.ShownFirst kind h orchard.kinds :=
    World.ShownFirst.ofMatching rfl rfl
  have boxes : Group.boxes.Suited fruit orchard := .boxes (by decide)
  have options : Group.options.Suited kind orchard := .options rfl rfl rfl rfl
  obtain ⟨-, checked, -⟩ := GroupDeed.setsExactly (g := .check ["pear", "pear"]) .default none
    (Group.locatedAtOnce _ _ firstBox) boxes (by decide)
  obtain ⟨-, -, missing⟩ := GroupDeed.setsExactly (g := .check ["pear", "fig", "plum"]) .default
    none (Group.locatedAtOnce _ _ firstBox) boxes (by decide)
  obtain ⟨-, unselected, -⟩ := GroupDeed.setsExactly (g := .unselect ["sour"]) .default none
    (Group.locatedAtOnce _ _ theSelect) options (by decide)
  refine ⟨⟨_, (checked ?_).1, rfl⟩, ⟨_, missing ["pear"] "fig" ["plum"] rfl ?_ ?_, rfl⟩, ?_⟩
  · decide
  · decide
  · decide
  · obtain ⟨once, twice⟩ := unselected (by decide)
    obtain ⟨again, made, ran, -, calls, others⟩ := twice (.start _ []) rfl rfl
    exact ⟨_, once, rfl, again, ran, calls ▸ others⟩

end PageCheck
