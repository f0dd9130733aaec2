import Mathlib.Data.List.Forall2
import PageCheck.Browser.World
import PageCheck.Extract
import PageCheck.Proofs.Sees

/-!
The page of the in-memory browser at one moment, as its nodes: those that match a locator, and the
values to be read from them. Main statement: reading through handles sees exactly these values
(`fromTargetSees`), for no handle that has just been found is gone.
-/
namespace PageCheck.Browser

def Node.value (n : Node) : String := (n.attr? "value").getD ""

def Node.reading (n : Node) : Reading :=
  let tag := Extract.lowerAscii n.tag
  let kind := (n.attr? "type").map Extract.lowerAscii
  if tag = "select" then .select
  else if kind = some "checkbox" then .checkbox
  else if kind = some "radio" then .radio
  else if tag = "input" then .input
  else .innerText

def readingAs (kind : Option ValueKind) (nodes : List Node) : Reading :=
  match kind, nodes with
  | some (.attr name), _ => .attr name
  | some .select, _ => .select
  | some .checkbox, _ => .checkbox
  | some .radio, _ => .radio
  | none, first :: _ => first.reading
  | none, [] => .innerText

def chosenValues (nodes : List Node) : List String := (nodes.filter Node.selected).map Node.value

theorem Node.isOption (n : Node) :
    n.isMatch Extract.optionLocator = decide (n.tag = "option") := by
  have selector : Selector.read "option" = { tag := "option", requirements := [] } := by decide
  have nonempty : decide ("option" = "") = false := by decide
  simp only [isMatch, Extract.optionLocator, selector, meetsSelector, nonempty, Bool.false_or,
    List.all_nil, Bool.and_true]
  exact decide_eq_decide.mpr eq_comm

namespace World

def present (w : World) (p : Node → Bool) : List Node :=
  w.session.nodes.filter fun n => w.session.isPresent w.now n && p n

def matching (w : World) (l : Locator) : List Node :=
  w.present fun n => n.isMatch l && n.frame = w.session.frame

def optionsOf (w : World) (select : Node) : List Node :=
  w.present fun n =>
    n.isMatch Extract.optionLocator && n.parent = some ((select.attr? "id").getD "")

def valuesOf (w : World) (reading : Reading) (nodes : List Node) : List String :=
  match reading with
  | .attr name => nodes.map fun n => (n.attr? name).getD ""
  | .select => nodes.flatMap fun select => chosenValues (w.optionsOf select)
  | .checkbox | .radio => chosenValues nodes
  | .input => nodes.map Node.value
  | .innerText | .html | .url => nodes.map Node.displayedText

def extracted (w : World) (kind : Option ValueKind) : List Node → Option Extracted
  | [] => none
  | nodes =>
    some { values := w.valuesOf (readingAs kind nodes) nodes, reading := readingAs kind nodes,
           matched := nodes.length }

def extraction (w : World) (kind : Option ValueKind) : Target → Option Extracted
  | .html => some { values := [w.session.html], reading := .html, matched := 1 }
  | .url => some { values := [w.session.url], reading := .url, matched := 1 }
  | .element (.value l) => w.extracted kind (w.matching l)
  | .element (.reference _) => none

theorem extractionMatched {w : World} {kind : Option ValueKind} {target : Target}
    {found : Extracted} (shown : w.extraction kind target = some found) : 1 ≤ found.matched := by
  match target with
  | .html => cases shown; exact Nat.le_refl 1
  | .url => cases shown; exact Nat.le_refl 1
  | .element (.reference _) => cases shown
  | .element (.value l) =>
    change w.extracted kind (w.matching l) = some found at shown
    unfold extracted at shown
    split at shown
    · cases shown
    · next nodes located =>
      cases shown
      exact List.length_pos_of_ne_nil located

theorem extractionNone {w : World} {kind : Option ValueKind} {target : Target}
    (literal : ∀ placeholder, target ≠ .element (.reference placeholder))
    (nowhere : w.extraction kind target = none) :
    ∃ l, target = .element (.value l) ∧ w.matching l = [] := by
  match target with
  | .html => cases nowhere
  | .url => cases nowhere
  | .element (.reference placeholder) => exact (literal placeholder rfl).elim
  | .element (.value l) =>
    refine ⟨l, rfl, ?_⟩
    change w.extracted kind (w.matching l) = none at nowhere
    unfold extracted at nowhere
    split at nowhere
    · next located => exact located
    · cases nowhere

variable {w : World} {h : Handle} {n : Node} {found : List Handle} {nodes : List Node}

def Names (w : World) (h : Handle) (n : Node) : Prop := w.session.node w.now h = .ok n

theorem presentNames {index : Nat} (stored : w.session.nodes[index]? = some n)
    (here : w.session.isPresent w.now n = true) :
    w.Names { generation := w.session.generation, index } n := by
  simp [Names, Session.node, stored, here]

theorem handlesName (w : World) (p : Node → Bool) :
    List.Forall₂ w.Names (w.session.handles w.now p) (w.present p) := by
  have nodes : w.present p =
      (w.session.nodes.zipIdx.filter fun found =>
        w.session.isPresent w.now found.1 && p found.1).map Prod.fst := by
    rw [present]
    conv_lhs => rw [← List.zipIdx_map_fst 0 w.session.nodes, List.filter_map]
    rfl
  rw [nodes, Session.handles, List.forall₂_map_left_iff, List.forall₂_map_right_iff,
    List.forall₂_same]
  rintro ⟨n, index⟩ member
  obtain ⟨stored, chosen⟩ := List.mem_filter.mp member
  have here : w.session.isPresent w.now n = true := (Bool.and_eq_true_iff.mp chosen).1
  exact presentNames (List.mk_mem_zipIdx_iff_getElem?.mp stored) here

theorem relatedMember {α β : Type} {R : α → β → Prop} {xs : List α} {ys : List β} {x : α}
    (related : List.Forall₂ R xs ys) (member : x ∈ xs) : ∃ y ∈ ys, R x y := by
  induction related with
  | nil => cases member
  | cons first _ ih =>
    rcases List.mem_cons.mp member with rfl | later
    · exact ⟨_, List.mem_cons_self, first⟩
    · obtain ⟨y, there, own⟩ := ih later
      exact ⟨y, List.mem_cons_of_mem _ there, own⟩

theorem handleNamed {p : Node → Bool} (member : h ∈ w.session.handles w.now p) :
    ∃ n ∈ w.present p, w.Names h n :=
  relatedMember (w.handlesName p) member

theorem nodeNamed {p : Node → Bool} (member : n ∈ w.present p) :
    ∃ h ∈ w.session.handles w.now p, w.Names h n := by
  have named : List.Forall₂ (flip w.Names) (w.present p) (w.session.handles w.now p) :=
    (w.handlesName p).flip
  exact relatedMember named member

theorem findAllSees (w : World) (l : Locator) :
    Sees w (Check.ask (Host.findAll l)) (.ok (w.session.find w.now l)) :=
  .ask rfl

theorem foundNames (w : World) (l : Locator) :
    List.Forall₂ w.Names (w.session.find w.now l) (w.matching l) :=
  w.handlesName _

theorem readSees {α : Type} (named : w.Names h n) (view : Node → α) :
    read h view w = .ok (view n) w := by
  simp only [read, lookAt, show w.session.node w.now h = .ok n from named]
  rfl

theorem findWithinNamed (named : w.Names h n) (l : Locator) :
    findWithin h l w = .ok (w.session.findWithin w.now ((n.attr? "id").getD "") l) w := by
  simp only [findWithin, lookAt, show w.session.node w.now h = .ok n from named]
  rfl

theorem valueSees (named : w.Names h n) : Sees w (Extract.valueOf h) (.ok n.value) :=
  (Sees.ask (readSees named _)).bind (.pure _)

theorem detectSees (named : w.Names h n) : Sees w (Extract.detect h) (.ok n.reading) := by
  refine (Sees.ask (readSees named Node.tag)).bind ?_
  by_cases select : Extract.lowerAscii n.tag = "select"
  · simp only [Node.reading, select, if_true]
    exact .pure _
  · simp only [Node.reading, select, if_false]
    refine (Sees.ask (readSees named fun n => n.attr? "type")).bind ?_
    repeat' split
    all_goals exact .pure _

theorem selectedSees (named : List.Forall₂ w.Names found nodes) :
    Sees w (Extract.selectedValues found) (.ok (chosenValues nodes)) := by
  induction named with
  | nil => exact .pure _
  | @cons h n _ rest named _ ih =>
    refine (Sees.ask (readSees named Node.selected)).bind ?_
    cases chosen : n.selected with
    | true =>
      simp only [chosenValues, List.filter_cons, chosen, if_true, List.map_cons]
      exact ((valueSees named).map _).bind (ih.bind (.pure _))
    | false =>
      simp only [chosenValues, List.filter_cons, chosen, Bool.false_eq_true, if_false]
      exact (Sees.pure _).bind (ih.bind (.pure _))

theorem selectSees (named : List.Forall₂ w.Names found nodes) :
    Sees w (Extract.selectValues found)
      (.ok (nodes.flatMap fun select => chosenValues (w.optionsOf select))) := by
  induction named with
  | nil => exact .pure _
  | @cons h n _ rest named _ ih =>
    have options : Sees w (Check.ask (Host.findWithin h Extract.optionLocator))
        (.ok (w.session.findWithin w.now ((n.attr? "id").getD "") Extract.optionLocator)) :=
      .ask (findWithinNamed named _)
    exact options.bind ((selectedSees (w.handlesName _)).bind (ih.bind (.pure _)))

theorem eachSees {read : Handle → Check World String} {view : Node → String}
    (each : ∀ h n, w.Names h n → Sees w (read h) (.ok (view n)))
    (named : List.Forall₂ w.Names found nodes) :
    Sees w (Extract.eachValue read found) (.ok (nodes.map view)) := by
  induction named with
  | nil => exact .pure _
  | cons named _ ih => exact (each _ _ named).bind (ih.bind (.pure _))

theorem readingSees (kind : Option ValueKind) (named : List.Forall₂ w.Names found nodes) :
    Sees w (Extract.readingOf kind found) (.ok (readingAs kind nodes)) := by
  match kind with
  | some (.attr name) => exact .pure _
  | some .select => exact .pure _
  | some .checkbox => exact .pure _
  | some .radio => exact .pure _
  | none =>
    cases named with
    | nil => exact .pure _
    | cons named _ => exact detectSees named

theorem valuesSee (reading : Reading) (named : List.Forall₂ w.Names found nodes) :
    Sees w (Extract.valuesBy reading found) (.ok (w.valuesOf reading nodes)) := by
  have texts : Sees w (Extract.eachValue (fun h => Check.ask (Host.text h)) found)
      (.ok (nodes.map Node.displayedText)) :=
    eachSees (fun _ _ named => .ask (readSees named _)) named
  cases reading with
  | attr name =>
    exact eachSees (fun _ _ named => (Sees.ask (readSees named _)).bind (.pure _)) named
  | select => exact selectSees named
  | checkbox => exact selectedSees named
  | radio => exact selectedSees named
  | input => exact eachSees (fun _ _ => valueSees) named
  | innerText => exact texts
  | html => exact texts
  | url => exact texts

theorem fromElementsSees (kind : Option ValueKind) (named : List.Forall₂ w.Names found nodes) :
    Sees w (Extract.fromElements kind found)
      (.ok { values := w.valuesOf (readingAs kind nodes) nodes, reading := readingAs kind nodes,
             matched := nodes.length }) := by
  rw [← named.length_eq]
  exact (readingSees kind named).bind ((valuesSee _ named).bind (.pure _))

theorem fromTargetSees (w : World) (kind : Option ValueKind) {target : Target}
    (literal : ∀ placeholder, target ≠ .element (.reference placeholder)) :
    Sees w (Extract.fromTarget target kind) (.ok (w.extraction kind target)) := by
  match target with
  | .html => exact (Sees.ask rfl).bind (.pure _)
  | .url => exact (Sees.ask rfl).bind (.pure _)
  | .element (.reference placeholder) => exact (literal placeholder rfl).elim
  | .element (.value l) =>
    refine (Sees.ofExcept (.ok l)).bind ((w.findAllSees l).bind ?_)
    have named := w.foundNames l
    show Sees w _ (.ok (w.extracted kind (w.matching l)))
    generalize w.session.find w.now l = found at named ⊢
    generalize w.matching l = nodes at named ⊢
    cases named with
    | nil => exact .pure _
    | cons first rest => exact (fromElementsSees kind (.cons first rest)).map some

end World

end PageCheck.Browser
