import PageCheck.Proofs.GuardAgreement
import PageCheck.Proofs.SingleChoice

/-!
Giving up options of a select. A select that takes several options gives up all that were asked for.
One that takes a single option does not: a click on the selected option selects it again, so one of
the options that were asked for is selected in the end, and the action passes nevertheless.
-/
namespace PageCheck

open Browser (World Handle Node)

def Action.unselect (settings : CheckSettings) (l : Locator) (timeout : Option Nat)
    (values : List String) : Check World Unit :=
  Action.perform settings { deed := .unselect (.value l) (values.map .value), timeout }

def Assertion.unselected (l : Locator) (values : List String) (timeout : Option Nat) : Assertion :=
  { demand := .compare {
      target := .element (.value l), criterion := .relates .unselected (.many (values.map .value)),
      kind := none, count := none }
    timeout }

namespace Browser.World

def Unselected (page : World) (select : Node) (values : List String) : Prop :=
  ∀ n ∈ page.optionsOf select, ∀ value ∈ values, n.attr? "value" = some value → n.selected = false

def takesSeveral (page : World) (select : Node) : Bool :=
  page.session.nodes.any fun n => n.tag = "select" &&
    n.attr? "id" = some ((select.attr? "id").getD "") && (n.attr? "multiple").isSome

end Browser.World

def Choice.ofSelect (select : Node) : Choice := .options ((select.attr? "id").getD "")

variable {settings : CheckSettings} {l : Locator} {timeout : Option Nat} {values : List String}
  {page after : World} {select : Node} {others : List Node} {mark : Nat → Bool}

namespace Choice

variable {c : Choice} {w : World} {n : Node} {h : Handle} {asked : List Handle}

theorem bringSettled (picked : ∀ k ∈ asked, ∃ n, w.Names k n ∧ c.Picks w n) :
    asked.foldl (World.bring (c.replace w) false) (c.replace w h mark) = c.replace w h mark := by
  induction asked with
  | nil => rfl
  | cons k rest ih =>
    obtain ⟨⟨n, named, picks⟩, others⟩ := List.forall_mem_cons.mp picked
    rw [List.foldl_cons, World.bring, replaceMember named picks]
    by_cases same : k.index = h.index
    · rw [if_neg (by simp [same]), replaceAgain, replaceSame same, ih others]
    · rw [if_pos (decide_eq_false same), ih others]

theorem bringFirst (picked : ∀ k ∈ asked, ∃ n, w.Names k n ∧ c.Picks w n)
    (selected : ∃ k ∈ asked, mark k.index = true) :
    ∃ k ∈ asked, asked.foldl (World.bring (c.replace w) false) mark = c.replace w k mark := by
  induction asked with
  | nil => obtain ⟨_, ⟨⟩, _⟩ := selected
  | cons k rest ih =>
    obtain ⟨_, others⟩ := List.forall_mem_cons.mp picked
    rw [List.foldl_cons, World.bring]
    by_cases first : mark k.index = false
    · rw [if_pos first]
      obtain ⟨own, member, marked⟩ := selected
      rcases List.mem_cons.mp member with rfl | later
      · cases first.symm.trans marked
      · obtain ⟨found, there, ended⟩ := ih others ⟨own, later, marked⟩
        exact ⟨found, List.mem_cons_of_mem _ there, ended⟩
    · rw [if_neg first, bringSettled others]
      exact ⟨k, List.mem_cons_self, rfl⟩

end Choice

open Choice (ofSelect)

theorem optionMember {n : Node} (member : n ∈ page.optionsOf select) :
    n.tag = "option" ∧ n.parent = some ((select.attr? "id").getD "") ∧
      page.session.allowsSeveral n = page.takesSeveral select := by
  obtain ⟨option, parent⟩ := Group.optionPresent member
  refine ⟨option, parent, ?_⟩
  rw [Browser.Session.allowsSeveral, parent]
  rfl

theorem optionsTurn (quiet : ∀ n ∈ page.optionsOf select, n.onClick = [])
    (several : page.takesSeveral select = true) :
    page.Members ((ofSelect select).found l page) := by
  intro h member
  obtain ⟨n, present, named⟩ := World.handleNamed member
  obtain ⟨tag, -, allows⟩ := optionMember present
  exact ⟨n, named, .inr ⟨tag, allows.trans several⟩, quiet n present⟩

theorem optionsPick (quiet : ∀ n ∈ page.optionsOf select, n.onClick = [])
    (single : page.takesSeveral select = false) :
    ∀ h ∈ (ofSelect select).found l page, ∃ n, page.Names h n ∧ (ofSelect select).Picks page n := by
  intro h member
  obtain ⟨n, present, named⟩ := World.handleNamed member
  obtain ⟨tag, parent, allows⟩ := optionMember present
  exact ⟨n, named, ⟨tag, parent, allows.trans single⟩, quiet n present⟩

theorem unselectedMarked : (page.marked mark).Unselected select values ↔
    ∀ h ∈ page.having ((ofSelect select).found l page) values, mark h.index = false := by
  constructor
  · intro unselected h member
    obtain ⟨kept, has⟩ := List.mem_filter.mp member
    obtain ⟨value, listed, same⟩ := of_decide_eq_true has
    obtain ⟨n, -, named⟩ := World.handleNamed kept
    exact unselected _ (Choice.markedMember mark kept named) value listed
      ((World.valueNamed named).symm.trans same)
  · intro all n' there value listed has
    obtain ⟨h, still, named'⟩ := World.nodeNamed there
    have kept : h ∈ (ofSelect select).found l page := Choice.foundMarked mark ▸ still
    obtain ⟨n, -, named⟩ := World.handleNamed kept
    cases named'.symm.trans (World.namesMarked named)
    have same := (World.valueNamed named).trans has
    exact all h (List.mem_filter.mpr ⟨kept, decide_eq_true ⟨value, listed, same⟩⟩)

theorem unselectedHere : page.Unselected select values ↔
    ∀ h ∈ page.having ((ofSelect select).found l page) values, page.marks h.index = false := by
  rw [← unselectedMarked, page.markedMarks]

theorem unselectToggles (matched : page.matching l = select :: others)
    (displayed : select.hidden = false) :
    Action.unselect settings l timeout values page =
      Action.toggle "unselect" l ((ofSelect select).found l page) false (values.map .value)
        page := by
  obtain ⟨_, shown⟩ := World.ShownFirst.ofMatching matched displayed
  have gathered := Choice.gathers (c := ofSelect select) "unselect"
    (Group.locatedAtOnce settings (timeout.getD settings.timeout) shown) matched
    (fun parent same => Choice.options.inj same)
  have unfolded := GroupDeed.performed (E := Handle) (σ := World) (.unselect values) settings l timeout
  exact (congrFun unfolded page).trans ((bindOfOk rfl _).trans (bindOfOk gathered _))

def Browser.World.clickOption (page : World) (select : Node) : World.Press :=
  if page.takesSeveral select = true then World.turn else (ofSelect select).replace page

theorem optionsPressed (quiet : ∀ n ∈ page.optionsOf select, n.onClick = []) :
    page.Pressed ((ofSelect select).found l page) (page.clickOption select) := by
  unfold World.clickOption
  split
  · next several => exact (optionsTurn quiet several).pressed
  · next single =>
    intro h member
    obtain ⟨n, named, picks⟩ := optionsPick quiet (Bool.not_eq_true _ ▸ single) h member
    exact ⟨⟨n, named⟩, fun _ => Choice.clickReplaces named picks⟩

theorem unselectEnds (matched : page.matching l = select :: others)
    (displayed : select.hidden = false) (quiet : ∀ n ∈ page.optionsOf select, n.onClick = [])
    (performed : Action.unselect settings l timeout values page = .ok () after) :
    after = page.marked ((page.asked ((ofSelect select).found l page) values).foldl
      (World.bring (page.clickOption select) false) page.marks) := by
  have pressed := optionsPressed (l := l) quiet
  have ended := (unselectToggles matched displayed).symm.trans performed
  rw [← page.markedMarks, Choice.foundMarked] at ended
  have offered := World.toggleOffered "unselect" l pressed ended
  exact (EStateM.Result.ok.inj (ended.symm.trans (World.toggleMarks "unselect" l pressed offered))).2

theorem unselectsAll (matched : page.matching l = select :: others)
    (displayed : select.hidden = false) (quiet : ∀ n ∈ page.optionsOf select, n.onClick = [])
    (performed : Action.unselect settings l timeout values page = .ok () after)
    (several : page.takesSeveral select = true) : after.Unselected select values := by
  rw [unselectEnds matched displayed quiet performed, World.clickOption, if_pos several,
    World.settingAsked, unselectedMarked]
  exact fun h member => World.settingMember member

theorem leavesOne (matched : page.matching l = select :: others)
    (displayed : select.hidden = false) (quiet : ∀ n ∈ page.optionsOf select, n.onClick = [])
    (performed : Action.unselect settings l timeout values page = .ok () after)
    (single : page.takesSeveral select = false) :
    (page.Unselected select values ∧ after = page) ∨
      ¬ page.Unselected select values ∧
        ∃ n, (ofSelect select).chosen after = [n] ∧ n ∈ after.optionsOf select ∧
          n.selected = true ∧ ∃ value ∈ values, n.attr? "value" = some value := by
  have picked := optionsPick (l := l) quiet single
  have ended := unselectEnds matched displayed quiet performed
  rw [World.clickOption, if_neg (Bool.eq_false_iff.mp single)] at ended
  by_cases already : page.Unselected select values
  · rw [World.bringNothing fun h member => unselectedHere.mp already h (World.askedIff.mp member),
      page.markedMarks] at ended
    exact .inl ⟨already, ended⟩
  · obtain ⟨h, member, selected⟩ : ∃ h ∈ page.having ((ofSelect select).found l page) values,
        page.marks h.index = true := by
      simpa [unselectedHere (l := l)] using already
    have among (k : Handle) (asked : k ∈ page.asked ((ofSelect select).found l page) values) :=
      List.mem_filter.mp (World.askedIff.mp asked)
    obtain ⟨k, asked, replaced⟩ := Choice.bringFirst (fun k asked => picked k (among k asked).1)
      ⟨h, World.askedIff.mpr member, selected⟩
    obtain ⟨kept, has⟩ := among k asked
    obtain ⟨value, listed, same⟩ := of_decide_eq_true has
    obtain ⟨n, named, picks⟩ := picked k kept
    have there := Choice.markedMember ((ofSelect select).replace page k page.marks) kept named
    rw [Choice.replaceMember named picks, decide_eq_true rfl] at there
    rw [replaced] at ended
    subst ended
    exact .inr ⟨already, n.marked true, Choice.chosenAlone named picks, there, rfl, value, listed,
      (World.valueNamed named).symm.trans same⟩

theorem ValueCheck.verifiesAtOnce {predicates : Predicates} {c : Comparison} {check : ValueCheck}
    {found : Extracted} (checks : Checks predicates c check)
    (literal : ∀ placeholder, c.target ≠ .element (.reference placeholder))
    (lists : c.criterion.wantsOne = false)
    (shown : page.extraction c.kind c.target = some found) (accepts : c.Accepts predicates found)
    (p : Poller) : check.verify p page = .ok () page := by
  have seen := World.valuesSeenBy checks page
  have looked := page.lookSees (checks.target ▸ literal)
  generalize page.valuesSeen check = outcome at seen looked
  cases seen with
  | accepted _ _ =>
    obtain ⟨_, ran, rfl⟩ := Yields.run p (.ofSees looked) page rfl
    exact bindOfOk ran _
  | refused shown' fails =>
    cases shown.symm.trans shown'
    exact (fails accepts).elim
  | unmatched nowhere => cases shown.symm.trans nowhere
  | several _ one _ => cases lists.symm.trans one

theorem unselectedVerifies (predicates : Predicates) {select' : Node}
    (matched : page.matching l = select' :: others) (tag : select'.tag = "select")
    (none : ∀ m ∈ page.matching l, ∀ n ∈ page.optionsOf m, n.selected = true → n.value ∉ values)
    (limit : Option Nat) :
    (Assertion.unselected l values limit).verify settings predicates page = .ok () page := by
  have reading : select'.reading = .select := by
    have lower : Extract.lowerAscii "select" = "select" := by decide
    rw [Node.reading, tag, lower]
    rfl
  have read := ValueCheck.literalsRead values
  obtain ⟨check, made⟩ : ∃ check, ValueCheck.ofComparison predicates
      { target := .element (.value l), criterion := .relates .unselected (.many (values.map .value)),
        kind := Option.none, count := Option.none } = .ok check :=
    ⟨_, bindOk.mpr ⟨_, mapOk.mpr ⟨values, read, rfl⟩, rfl⟩⟩
  have shown : page.extraction Option.none (.element (.value l)) = some
      { values := page.valuesOf .select (page.matching l), reading := .select,
        matched := (page.matching l).length } := by
    show page.extracted Option.none (page.matching l) = _
    simp only [matched, World.extracted, Browser.readingAs, reading]
  have apart : Relation.Relates values (page.valuesOf .select (page.matching l)) .unselected := by
    intro value listed found
    obtain ⟨m, there, chosen⟩ := List.mem_flatMap.mp found
    obtain ⟨n, kept, rfl⟩ := List.mem_map.mp chosen
    obtain ⟨option, selected⟩ := List.mem_filter.mp kept
    exact none m there n option selected listed
  have verified := ValueCheck.verifiesAtOnce (ValueCheck.ofComparisonChecks made) (by simp) rfl shown
    ⟨by simp, values, rfl, apart⟩
  have compared : Check.ofExcept (ValueCheck.ofComparison predicates
      { target := .element (.value l), criterion := .relates .unselected (.many (values.map .value)),
        kind := Option.none, count := Option.none }) page = .ok check page := by
    rw [made]
    rfl
  exact (bindOfOk rfl _).trans ((bindOfOk compared _).trans (verified _))

/-- What was asked for is given up exactly where the select takes several options, or where none of
it was selected; else one of the requested options is the only one that is selected. -/
theorem unselectsUnlessSingle (settings : CheckSettings) (predicates : Predicates) (l : Locator)
    (timeout : Option Nat) (values : List String) {page after : World} {select : Node}
    {others : List Node} (matched : page.matching l = select :: others)
    (displayed : select.hidden = false) (tag : select.tag = "select")
    (quiet : ∀ n ∈ page.optionsOf select, n.onClick = [])
    (performed : Action.unselect settings l timeout values page = .ok () after) :
    (after.Unselected select values ↔
      page.takesSeveral select = true ∨ page.Unselected select values) ∧
    (¬ after.Unselected select values → ∃ n, (ofSelect select).chosen after = [n] ∧
      n ∈ after.optionsOf select ∧ ∃ value ∈ values, n.attr? "value" = some value) ∧
    (after.Unselected select values →
      (∀ m ∈ after.matching l, ∀ n ∈ after.optionsOf m, n.selected = true → n.value ∈ values →
        n ∈ after.optionsOf select ∧ n.attr? "value" = some n.value) →
      ∀ limit, (Assertion.unselected l values limit).verify settings predicates after =
        .ok () after) := by
  have all := unselectsAll matched displayed quiet performed
  have one := leavesOne matched displayed quiet performed
  have still {n : Node} {value : String} (there : n ∈ after.optionsOf select)
      (selected : n.selected = true) (listed : value ∈ values)
      (has : n.attr? "value" = some value) : ¬ after.Unselected select values := by
    intro unselected
    cases (unselected n there value listed has).symm.trans selected
  refine ⟨?given, fun kept => ?kept, fun unselected only limit => ?verified⟩
  case given =>
    cases several : page.takesSeveral select with
    | true => exact iff_of_true (all several) (.inl rfl)
    | false =>
      rcases one several with ⟨already, rfl⟩ | ⟨before, n, _, there, selected, value, listed, has⟩
      · exact iff_of_true already (.inr already)
      · exact iff_of_false (still there selected listed has) (by simp [before])
  case kept =>
    have single : page.takesSeveral select = false := Bool.eq_false_iff.mpr fun several =>
      kept (all several)
    rcases one single with ⟨already, rfl⟩ | ⟨_, n, alone, there, _, value, listed, has⟩
    · exact (kept already).elim
    · exact ⟨n, alone, there, value, listed, has⟩
  case verified =>
    obtain ⟨h, shown⟩ := World.ShownFirst.ofMatching matched displayed
    obtain ⟨_, matched'⟩ := shown.marked.matching
    rw [← unselectEnds matched displayed quiet performed] at matched'
    refine unselectedVerifies predicates matched' tag (fun m there n option selected listed => ?_) limit
    obtain ⟨own, has⟩ := only m there n option selected listed
    exact still own selected listed has unselected

def drawer : World :=
  { session := { Browser.Session.start [] with
      nodes := [sizes, option "size" "s" true, option "size" "m" false, kinds,
        option "kind" "plain" true, option "kind" "striped" true] }
    now := 0 }
where
  sizes : Node := ⟨"select", "", [("id", "size")], false, false, none, none, none, none, []⟩
  kinds : Node :=
    ⟨"select", "", [("id", "kind"), ("multiple", "")], false, false, none, none, none, none, []⟩
  option (parent value : String) (selected : Bool) : Node :=
    ⟨"option", value, [("value", value)], selected, false, some parent, none, none, none, []⟩

def sizeField : Locator := { strategy := .id, selector := "size" }

def kindField : Locator := { strategy := .id, selector := "kind" }

theorem unselectsInDrawer :
    (∃ after, Action.unselect .default kindField none ["striped"] drawer = .ok () after ∧
      after.Unselected drawer.kinds ["striped"] ∧
      (Assertion.unselected kindField ["striped"] none).verify .default [] after = .ok () after) ∧
    Action.unselect .default sizeField none ["m"] drawer = .ok () drawer ∧
    drawer.Unselected drawer.sizes ["m"] := by
  obtain ⟨after, performed, only⟩ : ∃ after,
      Action.unselect .default kindField none ["striped"] drawer = .ok () after ∧
      ∀ m ∈ after.matching kindField, ∀ n ∈ after.optionsOf m, n.selected = true →
        n.value ∈ ["striped"] → n ∈ after.optionsOf drawer.kinds ∧ n.attr? "value" = some n.value :=
    ⟨_, rfl, by decide⟩
  have idle : Action.unselect .default sizeField none ["m"] drawer = .ok () drawer := rfl
  obtain ⟨givenUp, -, verified⟩ := unselectsUnlessSingle .default [] kindField none ["striped"]
    rfl rfl rfl (by decide) performed
  obtain ⟨nothing, -, -⟩ := unselectsUnlessSingle .default [] sizeField none ["m"] rfl rfl rfl
    (by decide) idle
  have unselected := givenUp.mpr (.inl (by decide))
  exact ⟨⟨after, performed, unselected, verified unselected only none⟩, idle,
    nothing.mpr (.inr (by unfold World.Unselected; decide))⟩

theorem unselectedStaysSelected :
    drawer.matching sizeField = [drawer.sizes] ∧ drawer.sizes.tag = "select" ∧
    drawer.sizes.hidden = false ∧ (∀ n ∈ drawer.optionsOf drawer.sizes, n.onClick = []) ∧
    Action.unselect .default sizeField none ["s"] drawer = .ok () drawer ∧
    (∃ n ∈ drawer.optionsOf drawer.sizes, n.attr? "value" = some "s" ∧ n.selected = true) ∧
    ∀ limit, ¬ (Assertion.unselected sizeField ["s"] limit).PassesOn .default [] drawer := by
  have still : drawer.Still := by decide
  have untrue (limit : Option Nat) :
      lenient ((Assertion.unselected sizeField ["s"] limit).demand.truth [] drawer) =
        .ok false := rfl
  refine ⟨rfl, rfl, rfl, by decide, rfl, by decide, fun limit => ?_⟩
  rw [passesOnIff still, untrue]
  exact nofun

end PageCheck
