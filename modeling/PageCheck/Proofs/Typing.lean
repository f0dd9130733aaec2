import PageCheck.Proofs.ChangedNodes
import PageCheck.Proofs.ExpiredWaits

/-!
Actions on text fields. Such an action waits for the first match of its locator, and changes nothing
but its value. Where the locator does not look at values, the next action finds the same node, so
texts that are typed one after the other are typed like one text.
-/
namespace PageCheck

open Browser (World Handle Node)

theorem Keyed.insertTwice {α : Type} (name : String) (value later : α) (pairs : Keyed α) :
    Keyed.insert name later (Keyed.insert name value pairs) = Keyed.insert name later pairs := by
  induction pairs with
  | nil => simp [insert]
  | cons pair rest ih =>
    obtain ⟨other, kept⟩ := pair
    by_cases before : name < other
    · simp [insert, before]
    · by_cases same : name = other
      · simp [insert, same]
      · simp [insert, before, same, ih]

theorem Browser.Node.attrSet (n : Node) (name value other : String) :
    (n.setAttr name value).attr? other = if other = name then some value else n.attr? other :=
  Keyed.getInsert name other value n.attrs

theorem Browser.Node.setTwice (n : Node) (name value later : String) :
    (n.setAttr name value).setAttr name later = n.setAttr name later := by
  rw [setAttr, setAttr, Keyed.insertTwice]
  rfl

def Browser.Requirement.attribute? : Browser.Requirement → Option String
  | .ofClass _ => some "class"
  | .ofId _ => some "id"
  | .withAttr name => some name
  | .attrIs name _ => some name
  | .unmet => none

namespace Locator

def attributes (l : Locator) : List String :=
  match l.strategy with
  | .css => (Browser.Selector.read l.selector).requirements.filterMap (·.attribute?)
  | .id => ["id"]
  | .name => ["name"]
  | .className => ["class"]
  | .xpath | .linkText | .tagName => []

def IgnoresValue (l : Locator) : Prop :=
  ∀ (n : Node) (value : String), (n.setAttr "value" value).isMatch l = n.isMatch l

theorem hasClassKept (n : Node) (value name : String) :
    (n.setAttr "value" value).hasClass name = n.hasClass name := by
  rw [Node.hasClass, Node.attrSet, if_neg (by decide), Node.hasClass]

theorem meetsKept (n : Node) (value : String) {requirement : Browser.Requirement}
    (other : requirement.attribute? ≠ some "value") :
    (n.setAttr "value" value).meets requirement = n.meets requirement := by
  cases requirement with
  | ofClass name => exact hasClassKept n value name
  | unmet => rfl
  | _ => simp_all [Browser.Requirement.attribute?, Node.meets, Node.attrSet]

theorem ignoresValue {l : Locator} (unnamed : "value" ∉ l.attributes) : l.IgnoresValue := by
  intro n value
  obtain ⟨strategy, selector⟩ := l
  cases strategy with
  | css =>
    simp only [attributes, List.mem_filterMap, not_exists, not_and] at unnamed
    have requirements : (Browser.Selector.read selector).requirements.all
        (n.setAttr "value" value).meets =
        (Browser.Selector.read selector).requirements.all n.meets := by
      rw [Bool.eq_iff_iff, List.all_eq_true, List.all_eq_true]
      refine forall₂_congr fun requirement listed => ?_
      rw [meetsKept n value (unnamed requirement listed)]
    simp only [Node.isMatch, Node.meetsSelector, requirements]
    rfl
  | id => simp [Node.isMatch, Node.attrSet]
  | name => simp [Node.isMatch, Node.attrSet]
  | className => exact hasClassKept n value selector
  | xpath | linkText | tagName => rfl

end Locator

def Browser.World.Locates (page : World) (l : Locator) (n : Node) : Prop :=
  n.isMatch l = true ∧ n.frame = page.session.frame ∧ page.session.isPresent page.now n = true

inductive TextDeed where
  | sendKeys (keys : String)
  | clear
  deriving DecidableEq, Repr

namespace TextDeed

def deed (l : Locator) : TextDeed → Deed
  | sendKeys keys => .sendKeys (.value l) (.value keys)
  | clear => .clear (.value l) .text

def leaves (n : Node) : TextDeed → String
  | sendKeys keys => (n.attr? "value").getD "" ++ keys
  | clear => ""

def write (d : TextDeed) (n : Node) : Node := n.setAttr "value" (d.leaves n)

variable {settings : CheckSettings} {l : Locator} {timeout : Option Nat} {w page : World}
  {h : Handle} {n : Node} {d : TextDeed}

def perform (settings : CheckSettings) (l : Locator) (timeout : Option Nat) (d : TextDeed) :
    Check World Unit :=
  Action.perform settings { deed := d.deed l, timeout }

def edited (d : TextDeed) (h : Handle) (page : World) : World :=
  { page with session := page.session.changeAt h.index d.write }

theorem typeAgain (first second : String) (n : Node) :
    (sendKeys second).write ((sendKeys first).write n) = (sendKeys (first ++ second)).write n := by
  simp [write, leaves, Node.attrSet, Node.setTwice, String.append_assoc]

theorem typeCleared (keys : String) (n : Node) :
    (sendKeys keys).write (clear.write n) = n.setAttr "value" keys := by
  simp [write, leaves, Node.attrSet, Node.setTwice]

theorem editAgain {d e both : TextDeed} (same : ∀ n, e.write (d.write n) = both.write n) :
    e.edited h (d.edited h page) = both.edited h page := by
  have composed : e.write ∘ d.write = both.write := funext same
  simp only [edited, Browser.Session.changeAt, List.modify_modify_eq, composed]

theorem performFound (waited : Wait.element l (timeout.getD settings.timeout) w = .ok h page) :
    d.perform settings l timeout w = .ok () (d.edited h page) := by
  obtain ⟨-, n, first⟩ := World.elementFound waited
  have wrote (f : Node → Node) : Check.ask (World.edit h f) page =
      .ok () { page with session := page.session.changeAt h.index f } := by
    rw [Check.ask, World.edit, bindOfOk (World.readSees first.named id)]
    rfl
  refine (bindOfOk rfl _).trans ?_
  cases d with
  | sendKeys keys =>
    refine Action.literally l ((bindOfOk (World.elementAwaited _ waited) _).trans ?_)
    exact Action.literally keys (wrote _)
  | clear =>
    refine Action.literally l ((bindOfOk (World.elementAwaited _ waited) _).trans ?_)
    exact wrote _

theorem performRefused {e : HostError}
    (refused : Wait.element l (timeout.getD settings.timeout) w = .error e page) :
    d.perform settings l timeout w = .error
      (Action.notFound (d.deed l).directive l.display (timeout.getD settings.timeout) e) page := by
  refine (bindOfOk rfl _).trans (Action.carryOutRefused ?_ refused)
  cases d with
  | sendKeys keys => exact .sendKeys _
  | clear => exact .clear

theorem performEnds {after : World} (performed : d.perform settings l timeout w = .ok () after) :
    ∃ h page, Wait.element l (timeout.getD settings.timeout) w = .ok h page ∧
      after = d.edited h page := by
  cases waited : (Wait.element l (timeout.getD settings.timeout) :
      Browser.Operation Handle) w with
  | ok h page =>
    rw [performFound waited] at performed
    cases performed
    exact ⟨h, page, rfl, rfl⟩
  | error e page =>
    rw [performRefused waited] at performed
    cases performed

theorem firstEdited (ignores : l.IgnoresValue) (first : page.ShownFirst l h n) :
    (d.edited h page).ShownFirst l h (d.write n) := by
  refine first.changedAt (fun _ _ => rfl) (fun m => ?_) first.shown
  exact congrArg (· && decide (m.frame = page.session.frame)) (ignores m _)

theorem editsFirst (first : page.ShownFirst l h n) :
    ∃ before later, page.session.nodes = before ++ n :: later ∧
      (∀ m ∈ before, ¬ page.Locates l m) ∧ page.Locates l n ∧
      d.edited h page = { page with session := { page.session with
        nodes := before ++ d.write n :: later } } := by
  obtain ⟨others, found⟩ := first.located
  obtain ⟨before, m, later, nodes, position, named, chosen, none⟩ := World.handlesFirst found
  obtain rfl : m = n := Except.ok.inj (named.symm.trans first.named)
  have locates (m : Node) : page.Locates l m ↔ (page.session.isPresent page.now m &&
      (m.isMatch l && m.frame = page.session.frame)) = true := by
    simp only [World.Locates, Bool.and_eq_true, decide_eq_true_iff]
    exact ⟨fun ⟨found, inFrame, here⟩ => ⟨here, found, inFrame⟩,
      fun ⟨here, found, inFrame⟩ => ⟨found, inFrame, here⟩⟩
  refine ⟨before, later, nodes, fun m member => ?_, (locates m).mpr chosen, ?_⟩
  · rw [locates, none m member]
    exact Bool.false_ne_true
  · simp [edited, Browser.Session.changeAt, nodes, ← position, List.modify_eq_take_drop]

theorem typesIntoFirst (settings : CheckSettings) (l : Locator) (timeout later : Option Nat)
    (w : World) :
    (l.IgnoresValue →
      (∀ first second,
        (do
          (sendKeys first).perform settings l timeout
          (sendKeys second).perform settings l later) w =
        (sendKeys (first ++ second)).perform settings l timeout w) ∧
      ∀ keys cleared, clear.perform settings l timeout w = .ok () cleared →
        ∃ typed n others, (sendKeys keys).perform settings l later cleared = .ok () typed ∧
          typed.matching l = n :: others ∧ n.attr? "value" = some keys) ∧
    ∀ (d : TextDeed) after, d.perform settings l timeout w = .ok () after →
      ∃ elapsed before n later, w.session.nodes = before ++ n :: later ∧
        (∀ m ∈ before, ¬ (w.pass elapsed).Locates l m) ∧ (w.pass elapsed).Locates l n ∧
        n.hidden = false ∧
        after = { w with
          now := w.now + elapsed
          session := { w.session with nodes := before ++ n.setAttr "value" (d.leaves n) :: later } }
    := by
  refine ⟨fun ignores => ⟨fun first second => ?_, fun keys cleared performed => ?_⟩,
    fun d after performed => ?_⟩
  · cases waited : (Wait.element l (timeout.getD settings.timeout) :
        Browser.Operation Handle) w with
    | error e page =>
      rw [bindOfError (performRefused waited), performRefused waited]
      rfl
    | ok h page =>
      obtain ⟨-, n, shown⟩ := World.elementFound waited
      have again := (firstEdited (d := sendKeys first) ignores shown).element
        (later.getD settings.timeout)
      rw [bindOfOk (performFound waited), performFound again, performFound waited,
        editAgain (typeAgain first second)]
  · obtain ⟨h, page, waited, rfl⟩ := performEnds performed
    obtain ⟨-, n, shown⟩ := World.elementFound waited
    have still := firstEdited (d := clear) ignores shown
    obtain ⟨others, located⟩ := (firstEdited (d := sendKeys keys) ignores still).matching
    refine ⟨_, _, others, performFound (still.element _), located, ?_⟩
    rw [typeCleared, Node.attrSet, if_pos rfl]
  · obtain ⟨h, page, waited, rfl⟩ := performEnds performed
    obtain ⟨⟨elapsed, rfl⟩, n, shown⟩ := World.elementFound waited
    obtain ⟨before, later, nodes, none, finds, edits⟩ := editsFirst (d := d) shown
    exact ⟨elapsed, before, n, later, nodes, none, finds, shown.shown, edits⟩

def form : World :=
  { session := { Browser.Session.start [] with
      nodes := [
        ⟨"label", "Name", [], false, false, none, none, none, none, []⟩,
        ⟨"input", "", [("id", "name"), ("value", "ab")], false, false, none, none, some 8, none, []⟩,
        ⟨"input", "", [("id", "name")], false, false, none, none, some 6, none, []⟩] }
    now := 0 }

def field : Locator := { strategy := .id, selector := "name" }

theorem typesIntoLateField :
    (do
      (sendKeys "c").perform .default field none
      (sendKeys "d").perform .default field (some 0)) form =
      (sendKeys "cd").perform .default field none form ∧
    ∃ cleared typed n others, clear.perform .default field none form = .ok () cleared ∧
      (sendKeys "e").perform .default field (some 0) cleared = .ok () typed ∧
      typed.matching field = n :: others ∧ n.attr? "value" = some "e" ∧
      ∃ elapsed before n later, form.session.nodes = before ++ n :: later ∧
        (∀ m ∈ before, ¬ (form.pass elapsed).Locates field m) ∧
        (form.pass elapsed).Locates field n ∧ n.hidden = false ∧
        cleared = { form with
          now := form.now + elapsed
          session := { form.session with nodes := before ++ n.setAttr "value" "" :: later } } := by
  have ignores : field.IgnoresValue := Locator.ignoresValue (by decide)
  obtain ⟨typing, frame⟩ := typesIntoFirst .default field none (some 0) form
  obtain ⟨twice, afresh⟩ := typing ignores
  obtain ⟨cleared, performed⟩ : ∃ cleared, clear.perform .default field none form = .ok () cleared :=
    ⟨_, rfl⟩
  obtain ⟨typed, n, others, ended, located, value⟩ := afresh "e" cleared performed
  exact ⟨twice "c" "d", cleared, typed, n, others, performed, ended, located, value,
    frame clear cleared performed⟩

end TextDeed

end PageCheck
