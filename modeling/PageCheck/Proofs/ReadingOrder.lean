import Mathlib.Data.List.Forall2
import PageCheck.Deferred
import PageCheck.Proofs.Resolution

/-!
A placeholder as its leaves in reading order: keys and literals. What it resolves to is, as text, the
concatenation of what its leaves stand for, and the first key that is not defined makes it fail. Only
a placeholder without appended segments keeps the kind of its entry.
-/
namespace PageCheck

inductive Leaf where
  | entry (key : String)
  | literal (text : String)
  deriving DecidableEq, Repr

namespace Leaf

def key? : Leaf → Option String
  | entry key => some key
  | literal _ => none

def keys (leaves : List Leaf) : List String := leaves.filterMap key?

def text (m : Mapping) : Leaf → String
  | entry key => ((m.get? key).map Entry.toText).getD ""
  | literal text => text

def joined (m : Mapping) (leaves : List Leaf) : String := String.join (leaves.map (text m))

end Leaf

mutual

def Segment.leaves : Segment → List Leaf
  | .literal text => [.literal text]
  | .reference key append => .entry key :: Segment.leavesAll append

def Segment.leavesAll : List Segment → List Leaf
  | [] => []
  | segment :: rest => segment.leaves ++ Segment.leavesAll rest

end

namespace Placeholder

def leaves (p : Placeholder) : List Leaf := .entry p.key :: Segment.leavesAll p.append

def keys (p : Placeholder) : List String := Leaf.keys p.leaves

end Placeholder

namespace Leaf

variable {m : Mapping} {leaves rest : List Leaf} {key : String}

def undefined? (m : Mapping) (leaves : List Leaf) : Option String :=
  (keys leaves).find? fun key => !m.has key

def concatenated (m : Mapping) (leaves : List Leaf) : Except Failure String :=
  match undefined? m leaves with
  | some key => .error (.missingPlaceholder key)
  | none => .ok (joined m leaves)

theorem definedIff : undefined? m leaves = none ↔ ∀ key ∈ keys leaves, m.has key = true := by
  simp [undefined?]

theorem concatenatedOk {text : String} : concatenated m leaves = .ok text ↔
    (∀ key ∈ keys leaves, m.has key = true) ∧ text = joined m leaves := by
  rw [← definedIff, concatenated]
  cases undefined? m leaves with
  | some key => exact iff_of_false nofun nofun
  | none => exact ⟨fun same => ⟨rfl, (Except.ok.inj same).symm⟩, fun ⟨_, same⟩ => same ▸ rfl⟩

theorem concatenatedError {failure : Failure} : concatenated m leaves = .error failure ↔
    ∃ before key after, keys leaves = before ++ key :: after ∧
      (∀ earlier ∈ before, m.has earlier = true) ∧ m.has key = false ∧
      failure = .missingPlaceholder key := by
  have first : concatenated m leaves = .error failure ↔
      ∃ key, undefined? m leaves = some key ∧ failure = .missingPlaceholder key := by
    rw [concatenated]
    cases undefined? m leaves with
    | none => exact iff_of_false nofun nofun
    | some key =>
      exact ⟨fun same => ⟨key, rfl, (Except.error.inj same).symm⟩,
        fun ⟨_, found, same⟩ => same ▸ Option.some.inj found ▸ rfl⟩
  simp only [first, undefined?, List.find?_eq_some_iff_append, Bool.not_eq_true', Bool.not_not]
  constructor
  · rintro ⟨key, ⟨missing, before, after, split, earlier⟩, rfl⟩
    exact ⟨before, key, after, split, earlier, missing, rfl⟩
  · rintro ⟨before, key, after, split, earlier, missing, rfl⟩
    exact ⟨key, ⟨missing, before, after, split, earlier⟩, rfl⟩

theorem concatenatedLiteral (text : String) : concatenated m [literal text] = .ok text :=
  concatenatedOk.mpr ⟨nofun, String.join_cons.trans String.append_empty |>.symm⟩

theorem concatenatedAppend : concatenated m (leaves ++ rest) = (do
    let first ← concatenated m leaves
    let others ← concatenated m rest
    return first ++ others) := by
  have undefined : undefined? m (leaves ++ rest) = (undefined? m leaves).or (undefined? m rest) := by
    rw [undefined?, keys, List.filterMap_append, List.find?_append]
    rfl
  have joins : joined m (leaves ++ rest) = joined m leaves ++ joined m rest := by
    rw [joined, List.map_append, String.join_append]
    rfl
  simp only [concatenated, undefined, joins]
  cases undefined? m leaves with
  | some key => rfl
  | none => cases undefined? m rest <;> rfl

theorem concatenatedEntry : concatenated m (entry key :: rest) = (do
    let base ← m.entry key
    let others ← concatenated m rest
    return base.toText ++ others) := by
  have one : concatenated m [entry key] = (m.entry key).map Entry.toText := by
    unfold Mapping.entry
    cases found : m.get? key with
    | none =>
      refine concatenatedError.mpr ⟨[], key, [], rfl, nofun, ?_, rfl⟩
      rw [Keyed.hasFound, found]
      rfl
    | some base =>
      refine concatenatedOk.mpr ⟨fun other member => ?_, ?_⟩
      · rw [List.mem_singleton.mp member, Keyed.hasFound, found]
        rfl
      · simp [joined, text, found]
  rw [← List.singleton_append, concatenatedAppend, one]
  cases m.entry key <;> rfl

end Leaf

mutual

theorem Segment.resolveLeaves (m : Mapping) : (s : Segment) →
    s.resolve m = Leaf.concatenated m s.leaves
  | .literal text => by
    rw [Segment.resolve, Segment.leaves, Leaf.concatenatedLiteral]
  | .reference key append => by
    rw [Segment.resolve, Segment.leaves, Leaf.concatenatedEntry, Segment.resolveAllLeaves m append]

theorem Segment.resolveAllLeaves (m : Mapping) : (list : List Segment) →
    Segment.resolveAll m list = Leaf.concatenated m (Segment.leavesAll list)
  | [] => by
    rw [Segment.resolveAll, Segment.leavesAll]
    rfl
  | segment :: rest => by
    rw [Segment.resolveAll, Segment.leavesAll, Leaf.concatenatedAppend,
      Segment.resolveLeaves m segment, Segment.resolveAllLeaves m rest]

end

theorem Mapping.entryOk {m : Mapping} {key : String} {found : Entry} :
    m.entry key = .ok found ↔ m.get? key = some found := by
  unfold Mapping.entry
  cases m.get? key with
  | none => exact iff_of_false nofun nofun
  | some entry => exact ⟨fun same => congrArg some (Except.ok.inj same),
      fun same => congrArg Except.ok (Option.some.inj same)⟩

namespace Placeholder

variable {m : Mapping} {p : Placeholder}

theorem resolveAlone (alone : p.append = []) : p.resolve m = m.entry p.key := by
  rw [resolve, alone]
  cases m.entry p.key <;> rfl

theorem resolveAppended (appended : p.append ≠ []) :
    p.resolve m = (Leaf.concatenated m p.leaves).map Entry.text := by
  obtain ⟨first, rest, split⟩ := List.exists_cons_of_ne_nil appended
  rw [leaves, Leaf.concatenatedEntry, ← Segment.resolveAllLeaves, resolve, split]
  cases m.entry p.key with
  | error failure => rfl
  | ok base => cases resolved : Segment.resolveAll m (first :: rest) <;> simp [resolved] <;> rfl

theorem resolveText (m : Mapping) (p : Placeholder) :
    (p.resolve m).map Entry.toText = Leaf.concatenated m p.leaves := by
  by_cases alone : p.append = []
  · rw [resolveAlone alone, leaves, Leaf.concatenatedEntry, alone]
    cases m.entry p.key with
    | error failure => rfl
    | ok base => exact congrArg Except.ok String.append_empty.symm
  · rw [resolveAppended alone]
    cases Leaf.concatenated m p.leaves <;> rfl

theorem resolveError {failure : Failure} :
    p.resolve m = .error failure ↔ Leaf.concatenated m p.leaves = .error failure := by
  rw [← resolveText]
  cases p.resolve m with
  | ok entry => exact iff_of_false nofun nofun
  | error e => exact ⟨congrArg (Except.map Entry.toText), fun same => by cases same; rfl⟩

theorem resolvedText {text : String} :
    (∃ entry, p.resolve m = .ok entry ∧ entry.toText = text) ↔
      Leaf.concatenated m p.leaves = .ok text := by
  rw [← resolveText]
  exact mapsIff.symm

theorem resolvesIff : (∃ entry, p.resolve m = .ok entry) ↔ ∀ key ∈ p.keys, m.has key = true := by
  constructor
  · rintro ⟨entry, resolved⟩
    exact (Leaf.concatenatedOk.mp (resolvedText.mp ⟨entry, resolved, rfl⟩)).1
  · intro defined
    obtain ⟨entry, resolved, -⟩ := resolvedText.mpr (Leaf.concatenatedOk.mpr ⟨defined, rfl⟩)
    exact ⟨entry, resolved⟩

end Placeholder

def Segment.Contributes (m : Mapping) : Segment → String → Prop
  | .literal text, contributed => contributed = text
  | .reference key append, contributed =>
    ∃ entry, ({ key, append } : Placeholder).resolve m = .ok entry ∧ entry.toText = contributed

theorem Segment.contributesIff {m : Mapping} {s : Segment} {text : String} :
    s.Contributes m text ↔ s.resolve m = .ok text := by
  cases s with
  | literal own =>
    rw [Segment.resolve]
    exact ⟨congrArg Except.ok ∘ Eq.symm, fun same => (Except.ok.inj same).symm⟩
  | reference key append =>
    rw [Segment.resolveLeaves, Segment.leaves]
    exact Placeholder.resolvedText

theorem Segment.resolveAllOk {m : Mapping} {list : List Segment} {text : String} :
    Segment.resolveAll m list = .ok text ↔
      ∃ texts, List.Forall₂ (Segment.Contributes m) list texts ∧ text = String.join texts := by
  induction list generalizing text with
  | nil =>
    rw [Segment.resolveAll]
    constructor
    · rintro ⟨⟩
      exact ⟨[], .nil, rfl⟩
    · rintro ⟨_, ⟨⟩, rfl⟩
      rfl
  | cons segment rest ih =>
    rw [Segment.resolveAll, bindOk]
    constructor
    · rintro ⟨first, atFirst, others⟩
      obtain ⟨last, atRest, rfl⟩ := mapOk.mp others
      obtain ⟨texts, contributed, rfl⟩ := ih.mp atRest
      exact ⟨first :: texts, .cons (Segment.contributesIff.mpr atFirst) contributed,
        String.join_cons.symm⟩
    · rintro ⟨_, contributed, rfl⟩
      cases contributed with
      | @cons _ first _ texts atFirst atRest =>
        have others := ih.mpr ⟨texts, atRest, rfl⟩
        exact ⟨first, Segment.contributesIff.mp atFirst,
          mapOk.mpr ⟨_, others, String.join_cons.symm⟩⟩

theorem Placeholder.appendedText {m : Mapping} {p : Placeholder} {entry : Entry}
    (appended : p.append ≠ []) (resolved : p.resolve m = .ok entry) :
    entry = .text (Leaf.joined m p.leaves) ∧
      ∃ base texts, m.get? p.key = some base ∧
        List.Forall₂ (Segment.Contributes m) p.append texts ∧
        entry = .text (base.toText ++ String.join texts) := by
  rw [resolveAppended appended] at resolved
  obtain ⟨text, concatenated, rfl⟩ := mapsOk resolved
  refine ⟨congrArg Entry.text (Leaf.concatenatedOk.mp concatenated).2, ?_⟩
  rw [leaves, Leaf.concatenatedEntry, ← Segment.resolveAllLeaves] at concatenated
  obtain ⟨base, found, others⟩ := bindOk.mp concatenated
  obtain ⟨rest, atRest, rfl⟩ := mapOk.mp others
  obtain ⟨texts, contributed, rfl⟩ := Segment.resolveAllOk.mp atRest
  exact ⟨base, texts, Mapping.entryOk.mp found, contributed, rfl⟩

structure TakesOnly {α : Type} [Slot α] (entry : α → Entry) (expected : String) : Prop where
  takes (key : String) (literal : α) : Slot.ofEntry key (entry literal) = .ok literal
  refuses {key : String} {found : Entry} (other : ∀ literal, found ≠ entry literal) :
    Slot.ofEntry (α := α) key found =
      .error (.scenario (.wrongEntry key expected found.describe))
  notText (literal : α) (text : String) : entry literal ≠ .text text

theorem locatorTakesOnly : TakesOnly Entry.locator "a locator" where
  takes _ _ := rfl
  refuses {_ found} other := by
    cases found with
    | locator value => exact (other value rfl).elim
    | _ => rfl
  notText _ _ := nofun

theorem flagTakesOnly : TakesOnly Entry.bool "a boolean" where
  takes _ _ := rfl
  refuses {_ found} other := by
    cases found with
    | bool value => exact (other value rfl).elim
    | _ => rfl
  notText _ _ := nofun

structure ResolvesAlone {α : Type} [Slot α] (entry : α → Entry) (expected : String) (m : Mapping)
    (p : Placeholder) : Prop where
  resolves (d : Deferred α) : (Deferred.reference p).resolve m = .ok d ↔
    ∃ literal, d = .value literal ∧ p.append = [] ∧ m.get? p.key = some (entry literal)
  refused : (∀ key ∈ p.keys, m.has key = true) →
    ¬ (p.append = [] ∧ ∃ literal, m.get? p.key = some (entry literal)) →
    ∃ found, p.resolve m = .ok found ∧ (Deferred.reference p : Deferred α).resolve m =
      .error (.scenario (.wrongEntry p.key expected found.describe))

theorem TakesOnly.entryIff {α : Type} [Slot α] {entry : α → Entry} {expected : String}
    (only : TakesOnly entry expected) {m : Mapping} {p : Placeholder} {literal : α} :
    p.resolve m = .ok (entry literal) ↔ p.append = [] ∧ m.get? p.key = some (entry literal) := by
  by_cases alone : p.append = []
  · rw [Placeholder.resolveAlone alone, Mapping.entryOk, and_iff_right alone]
  · refine iff_of_false (fun resolved => ?_) fun both => alone both.1
    exact only.notText _ _ (Placeholder.appendedText alone resolved).1

theorem TakesOnly.resolvesAlone {α : Type} [Slot α] {entry : α → Entry} {expected : String}
    (only : TakesOnly entry expected) (m : Mapping) (p : Placeholder) :
    ResolvesAlone entry expected m p where
  resolves d := by
    rw [Deferred.resolve, bindOk]
    simp only [mapOk]
    constructor
    · rintro ⟨found, resolved, literal, taken, rfl⟩
      by_cases other : ∀ literal, found ≠ entry literal
      · rw [only.refuses other] at taken
        cases taken
      · obtain ⟨same, atLiteral⟩ := not_forall.mp other
        obtain rfl := not_not.mp atLiteral
        rw [only.takes] at taken
        cases taken
        exact ⟨_, rfl, only.entryIff.mp resolved⟩
    · rintro ⟨literal, rfl, alone⟩
      exact ⟨_, only.entryIff.mpr alone, literal, only.takes _ _, rfl⟩
  refused defined unfit := by
    obtain ⟨found, resolved⟩ := Placeholder.resolvesIff.mpr defined
    refine ⟨found, resolved, ?_⟩
    have other : ∀ literal, found ≠ entry literal := by
      rintro literal rfl
      obtain ⟨alone, here⟩ := only.entryIff.mp resolved
      exact unfit ⟨alone, literal, here⟩
    rw [Deferred.resolve, resolved]
    show (do return Deferred.value (← Slot.ofEntry (α := α) p.key found)) = _
    rw [only.refuses other]
    rfl

/-- Resolving is concatenating in reading order, and the first key that is not defined is told. -/
theorem resolvesInReadingOrder (m : Mapping) (p : Placeholder) :
    ((∃ entry, p.resolve m = .ok entry) ↔ ∀ key ∈ p.keys, m.has key = true) ∧
    (∀ failure, p.resolve m = .error failure ↔
      ∃ before key after, p.keys = before ++ key :: after ∧
        (∀ earlier ∈ before, m.has earlier = true) ∧ m.has key = false ∧
        failure = .missingPlaceholder key) ∧
    (∀ entry, p.resolve m = .ok entry →
      (p.append = [] → m.get? p.key = some entry) ∧
      (p.append ≠ [] → entry = .text (Leaf.joined m p.leaves) ∧
        ∃ base texts, m.get? p.key = some base ∧
          List.Forall₂ (Segment.Contributes m) p.append texts ∧
          entry = .text (base.toText ++ String.join texts))) ∧
    ResolvesAlone Entry.locator "a locator" m p ∧ ResolvesAlone Entry.bool "a boolean" m p := by
  refine ⟨Placeholder.resolvesIff, fun failure => ?_, fun entry resolved => ⟨fun alone => ?_,
    fun appended => Placeholder.appendedText appended resolved⟩,
    locatorTakesOnly.resolvesAlone m p, flagTakesOnly.resolvesAlone m p⟩
  · rw [Placeholder.resolveError, Leaf.concatenatedError]
    rfl
  · rw [Placeholder.resolveAlone alone] at resolved
    exact Mapping.entryOk.mp resolved

def address : Placeholder :=
  { key := "base", append := [.literal "/", .reference "page" [.literal ".html"], .literal "#top"] }

theorem resolvesInReadingOrderToAddress :
    address.keys = ["base", "page"] ∧
    address.resolve [("base", .text "http://a"), ("page", .bool true)] =
      .ok (.text "http://a/true.html#top") ∧
    address.resolve [("base", .text "http://a"), ("top", .bool true)] =
      .error (.missingPlaceholder "page") ∧
    (Deferred.reference address : Deferred Locator).resolve
        [("base", .text "http://a"), ("page", .bool true)] =
      .error (.scenario (.wrongEntry "base" "a locator" "text")) := by
  obtain ⟨defined, -, told, located, -⟩ :=
    resolvesInReadingOrder [("base", .text "http://a"), ("page", .bool true)] address
  obtain ⟨-, missing, -⟩ :=
    resolvesInReadingOrder [("base", .text "http://a"), ("top", .bool true)] address
  have bothDefined : ∀ key ∈ address.keys,
      Keyed.has [("base", Entry.text "http://a"), ("page", .bool true)] key = true := by decide
  obtain ⟨entry, resolved⟩ := defined.mpr bothDefined
  obtain ⟨rfl, -⟩ := (told entry resolved).2 nofun
  obtain ⟨found, atFound, refused⟩ := located.refused bothDefined fun both => nomatch both.1
  obtain rfl : _ = found := Except.ok.inj (resolved.symm.trans atFound)
  refine ⟨rfl, resolved, (missing _).mpr ⟨["base"], "page", [], rfl, ?_, rfl, rfl⟩, refused⟩
  decide

end PageCheck
