import PageCheck.Proofs.PageView

/-!
The rules for what is read from matched elements. A declared kind decides it; else the first match
does for all of them, by its tag and then by its `type`, in capital letters or not. Main statement:
reading gives what the rules say of the nodes that match, and nothing else (`readByRules`).
-/
namespace PageCheck

namespace Text

def EitherCase (letter c : Char) : Prop :=
  c = letter ∨ c.isUpper = true ∧ letter.toNat = c.toNat + 32

def Spells (word text : String) : Prop := List.Forall₂ EitherCase word.toList text.toList

theorem upperIff {c : Char} : c.isUpper = true ↔ 65 ≤ c.toNat ∧ c.toNat ≤ 90 :=
  decide_eq_true_iff.trans (and_congr UInt32.le_iff_toNat_le UInt32.le_iff_toNat_le)

theorem lowerOfUpper {c : Char} (capital : c.isUpper = true) : c.toLower.toNat = c.toNat + 32 := by
  have bound : c.toNat + 32 < 2 ^ 32 := by
    have last := (upperIff.mp capital).2
    omega
  have lowered : c.toLower.val = c.val + 32 :=
    congrArg Char.val (dif_pos (of_decide_eq_true capital))
  have shifted := congrArg UInt32.toNat lowered
  rw [UInt32.toNat_add] at shifted
  exact shifted.trans (Nat.mod_eq_of_lt bound)

theorem lowerOfOther {c : Char} (other : c.isUpper = false) : c.toLower = c :=
  dif_neg (of_decide_eq_false other)

theorem toLowerIff {letter c : Char} (small : letter.isUpper = false) :
    c.toLower = letter ↔ EitherCase letter c := by
  cases capital : c.isUpper with
  | true =>
    have moved := lowerOfUpper capital
    constructor
    · rintro rfl
      exact .inr ⟨capital, moved⟩
    · rintro (rfl | ⟨-, above⟩)
      · cases small.symm.trans capital
      · exact Char.toNat_inj.mp (moved.trans above.symm)
  | false =>
    rw [lowerOfOther capital, EitherCase, capital]
    simp

theorem spellsIff {word text : String} (small : word.toList.any Char.isUpper = false) :
    Extract.lowerAscii text = word ↔ Spells word text := by
  rw [Extract.lowerAscii, ← String.toList_inj, String.toList_ofList, Spells]
  generalize word.toList = letters at small
  generalize text.toList = cs
  induction letters generalizing cs with
  | nil => cases cs <;> simp
  | cons letter letters ih =>
    obtain ⟨first, rest⟩ := Bool.or_eq_false_iff.mp small
    cases cs with
    | nil => simp
    | cons c cs =>
      rw [List.map_cons, List.cons.injEq, List.forall₂_cons, toLowerIff first, ih rest cs]

end Text

namespace Browser

namespace Node

def IsTagged (n : Node) (word : String) : Prop := Text.Spells word n.tag

def IsTyped (n : Node) (word : String) : Prop :=
  ∃ text, n.attr? "type" = some text ∧ Text.Spells word text

def AsksFor (n : Node) : Reading → Prop
  | .select => n.IsTagged "select"
  | .checkbox => ¬ n.IsTagged "select" ∧ n.IsTyped "checkbox"
  | .radio => ¬ n.IsTagged "select" ∧ n.IsTyped "radio"
  | .input => n.IsTagged "input" ∧ ¬ n.IsTyped "checkbox" ∧ ¬ n.IsTyped "radio"
  | .innerText =>
    ¬ n.IsTagged "select" ∧ ¬ n.IsTagged "input" ∧ ¬ n.IsTyped "checkbox" ∧ ¬ n.IsTyped "radio"
  | .attr _ | .html | .url => False

variable {n : Node} {word : String}

theorem taggedIff (small : word.toList.any Char.isUpper = false) :
    n.IsTagged word ↔ Extract.lowerAscii n.tag = word :=
  (Text.spellsIff small).symm

theorem typedIff (small : word.toList.any Char.isUpper = false) :
    n.IsTyped word ↔ (n.attr? "type").map Extract.lowerAscii = some word := by
  rw [Option.map_eq_some_iff, IsTyped]
  exact exists_congr fun _ => and_congr_right fun _ => (Text.spellsIff small).symm

theorem readingIff {reading : Reading} : n.reading = reading ↔ n.AsksFor reading := by
  have select : n.IsTagged "select" ↔ _ := taggedIff (by decide)
  have input : n.IsTagged "input" ↔ _ := taggedIff (by decide)
  have checkbox : n.IsTyped "checkbox" ↔ _ := typedIff (by decide)
  have radio : n.IsTyped "radio" ↔ _ := typedIff (by decide)
  unfold Node.reading
  dsimp only
  generalize Extract.lowerAscii n.tag = tag at select input ⊢
  generalize (n.attr? "type").map Extract.lowerAscii = kind at checkbox radio ⊢
  split_ifs <;> cases reading <;> simp_all [AsksFor]

end Node

inductive Chooses (first : Node) : Option ValueKind → Reading → Prop where
  | checkbox : Chooses first (some .checkbox) .checkbox
  | radio : Chooses first (some .radio) .radio
  | select : Chooses first (some .select) .select
  | attr (name : String) : Chooses first (some (.attr name)) (.attr name)
  | undeclared {reading : Reading} (asks : first.AsksFor reading) : Chooses first none reading

namespace World

inductive Reads (w : World) (kind : Option ValueKind) (first : Node) (nodes : List Node) :
    (label : String) → (values : List String) → Prop where
  | attributes {name : String} (chosen : Chooses first kind (.attr name)) :
    Reads w kind first nodes (name ++ " attribute") (nodes.map fun n => (n.attr? name).getD "")
  | options (chosen : Chooses first kind .select) :
    Reads w kind first nodes "select value"
      (nodes.flatMap fun select => ((w.present fun n => n.tag = "option" &&
        n.parent = some ((select.attr? "id").getD "")).filter Node.selected).map Node.value)
  | boxes (chosen : Chooses first kind .checkbox) :
    Reads w kind first nodes "checkbox value" ((nodes.filter Node.selected).map Node.value)
  | radios (chosen : Chooses first kind .radio) :
    Reads w kind first nodes "radio value" ((nodes.filter Node.selected).map Node.value)
  | inputs (chosen : Chooses first kind .input) :
    Reads w kind first nodes "input value" (nodes.map Node.value)
  | texts (chosen : Chooses first kind .innerText) :
    Reads w kind first nodes "inner text" (nodes.map fun n => if n.hidden then "" else n.text)

variable {w : World} {kind : Option ValueKind} {first : Node} {rest : List Node}
  {reading : Reading} {label : String} {values : List String}

theorem readingAsIff : readingAs kind (first :: rest) = reading ↔ Chooses first kind reading := by
  constructor
  · rintro rfl
    match kind with
    | some .checkbox => exact .checkbox
    | some .radio => exact .radio
    | some .select => exact .select
    | some (.attr name) => exact .attr name
    | none => exact .undeclared (Node.readingIff.mp rfl)
  · intro chosen
    cases chosen with
    | undeclared asks => exact Node.readingIff.mpr asks
    | _ => rfl

theorem optionsTagged (w : World) (select : Node) :
    (w.present fun n => n.tag = "option" && n.parent = some ((select.attr? "id").getD "")) =
      w.optionsOf select := by
  simp only [optionsOf, Node.isOption]

theorem readsIff : w.Reads kind first (first :: rest) label values ↔
    label = (readingAs kind (first :: rest)).label ∧
      values = w.valuesOf (readingAs kind (first :: rest)) (first :: rest) := by
  constructor
  · intro reads
    cases reads with
    | options chosen =>
      rw [readingAsIff.mpr chosen]
      simp only [optionsTagged]
      exact ⟨rfl, rfl⟩
    | attributes chosen => rw [readingAsIff.mpr chosen]; exact ⟨rfl, rfl⟩
    | boxes chosen => rw [readingAsIff.mpr chosen]; exact ⟨rfl, rfl⟩
    | radios chosen => rw [readingAsIff.mpr chosen]; exact ⟨rfl, rfl⟩
    | inputs chosen => rw [readingAsIff.mpr chosen]; exact ⟨rfl, rfl⟩
    | texts chosen => rw [readingAsIff.mpr chosen]; exact ⟨rfl, rfl⟩
  · rintro ⟨rfl, rfl⟩
    have chosen : Chooses first kind (readingAs kind (first :: rest)) := readingAsIff.mp rfl
    generalize readingAs kind (first :: rest) = reading at chosen ⊢
    cases reading with
    | attr name => exact .attributes chosen
    | checkbox => exact .boxes chosen
    | radio => exact .radios chosen
    | input => exact .inputs chosen
    | innerText => exact .texts chosen
    | select =>
      have read : w.Reads kind first (first :: rest) _ _ := .options chosen
      simp only [optionsTagged] at read
      exact read
    | html => cases chosen with | undeclared asks => cases asks
    | url => cases chosen with | undeclared asks => cases asks

def Told (label : String) (values : List String) (matched : Nat) (answer : Option Extracted) :
    Prop :=
  ∃ reading : Reading, reading.label = label ∧ answer = some { values, reading, matched }

end World

/-- Nothing is read when no node matches. Else the values are those of all matches in document
order, chosen and labelled by the rules; the document and the address are read as single values. -/
theorem readByRules (w : World) (kind : Option ValueKind) :
    (∀ l, ∃ answer, Extract.fromTarget (.element (.value l)) kind w = .ok answer w ∧
      (answer = none ↔ w.matching l = []) ∧
      ∀ label values matched, World.Told label values matched answer ↔
        ∃ first rest, w.matching l = first :: rest ∧ matched = (w.matching l).length ∧
          w.Reads kind first (w.matching l) label values) ∧
    (∃ answer, Extract.fromTarget .html kind w = .ok answer w ∧
      World.Told "html" [w.session.html] 1 answer) ∧
    ∃ answer, Extract.fromTarget .url kind w = .ok answer w ∧
      World.Told "url" [w.session.url] 1 answer := by
  refine ⟨fun l => ?elements, ⟨_, w.fromTargetSees kind nofun, .html, rfl, rfl⟩,
    ⟨_, w.fromTargetSees kind nofun, .url, rfl, rfl⟩⟩
  refine ⟨_, w.fromTargetSees kind nofun, ?_⟩
  show (w.extracted kind (w.matching l) = none ↔ _) ∧ ∀ label values matched,
    World.Told label values matched (w.extracted kind (w.matching l)) ↔ _
  cases located : w.matching l with
  | nil => exact ⟨iff_of_true rfl rfl, fun _ _ _ => iff_of_false nofun nofun⟩
  | cons first rest =>
    refine ⟨iff_of_false nofun nofun, fun label values matched => ⟨?told, ?rules⟩⟩
    case told =>
      rintro ⟨reading, named, read⟩
      cases read
      exact ⟨first, rest, rfl, rfl, World.readsIff.mpr ⟨named.symm, rfl⟩⟩
    case rules =>
      rintro ⟨_, _, same, rfl, reads⟩
      cases same
      obtain ⟨rfl, rfl⟩ := World.readsIff.mp reads
      exact ⟨_, rfl, rfl⟩

end Browser

end PageCheck
