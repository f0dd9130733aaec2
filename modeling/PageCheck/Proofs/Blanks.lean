import PageCheck.Proofs.References
import PageCheck.Proofs.ReadingOrder

/-!
A tree as a form with blanks. The blanks are the fields that may hold a reference, in the order in
which they are resolved; the form is everything else. A tree is traversed when resolving it fills
its blanks one after the other and leaves its form, and when form and blanks are all there is to it.
-/
namespace PageCheck

inductive Blank where
  | text (field : Deferred String)
  | locator (field : Deferred Locator)
  | flag (field : Deferred Bool)
  deriving DecidableEq, Repr

namespace Blank

def resolve (m : Mapping) : Blank → Except Failure Blank
  | text field => do return text (← field.resolve m)
  | locator field => do return locator (← field.resolve m)
  | flag field => do return flag (← field.resolve m)

def references : Blank → List Placeholder
  | text field => field.references
  | locator field => field.references
  | flag field => field.references

def keys (b : Blank) : List String := b.references.flatMap Placeholder.keys

inductive Amiss (m : Mapping) : Blank → Failure → Prop where
  | undefined {b key} (occurs : key ∈ b.keys) (missing : m.has key = false) :
      Amiss m b (.missingPlaceholder key)
  | noLocator {p found} (resolved : p.resolve m = .ok found) (other : ∀ l, found ≠ .locator l) :
      Amiss m (locator (.reference p)) (.scenario (.wrongEntry p.key "a locator" found.describe))
  | noFlag {p found} (resolved : p.resolve m = .ok found) (other : ∀ b, found ≠ .bool b) :
      Amiss m (flag (.reference p)) (.scenario (.wrongEntry p.key "a boolean" found.describe))

end Blank

theorem mapFails {ε α β : Type} {result : Except ε α} {build : α → β} {failure : ε} :
    (do return build (← result)) = .error failure ↔ result = .error failure := by
  cases result with
  | ok found => exact iff_of_false nofun nofun
  | error e => exact ⟨fun | rfl => rfl, fun | rfl => rfl⟩

theorem resolveItemsOk {α : Type} {resolve : α → Except Failure α} {list found : List α} :
    resolveItems resolve list = .ok found ↔
      List.Forall₂ (fun item filled => resolve item = .ok filled) list found := by
  induction list generalizing found with
  | nil => exact ⟨fun | rfl => .nil, fun | .nil => rfl⟩
  | cons item rest ih =>
    constructor
    · intro resolved
      obtain ⟨first, atItem, resolved⟩ := bindOk.mp resolved
      obtain ⟨others, atRest, rfl⟩ := mapOk.mp resolved
      exact .cons atItem (ih.mp atRest)
    · rintro (_ | ⟨atItem, atRest⟩)
      exact bindOk.mpr ⟨_, atItem, mapOk.mpr ⟨_, ih.mpr atRest, rfl⟩⟩

theorem resolveItemsError {α : Type} {resolve : α → Except Failure α} {list : List α}
    {failure : Failure} : resolveItems resolve list = .error failure ↔
      ∃ before item after, list = before ++ item :: after ∧
        (∀ earlier ∈ before, ∃ filled, resolve earlier = .ok filled) ∧
        resolve item = .error failure := by
  induction list with
  | nil => exact iff_of_false nofun fun ⟨_, _, _, split, _⟩ => by simp at split
  | cons item rest ih =>
    rw [resolveItems]
    cases atItem : resolve item with
    | error e =>
      constructor
      · rintro ⟨⟩
        exact ⟨[], item, rest, rfl, nofun, atItem⟩
      · rintro ⟨before, other, after, split, earlier, fails⟩
        cases before with
        | nil =>
          cases split
          rw [atItem] at fails
          cases fails
          rfl
        | cons first before =>
          cases split
          obtain ⟨_, filled⟩ := earlier item (.head _)
          cases atItem.symm.trans filled
    | ok first =>
      refine mapFails.trans (ih.trans ⟨?_, ?_⟩)
      · rintro ⟨before, other, after, rfl, earlier, fails⟩
        exact ⟨item :: before, other, after, rfl,
          List.forall_mem_cons.mpr ⟨⟨first, atItem⟩, earlier⟩, fails⟩
      · rintro ⟨before, other, after, split, earlier, fails⟩
        cases before with
        | nil =>
          cases split
          cases atItem.symm.trans fails
        | cons _ before =>
          cases split
          exact ⟨before, other, after, rfl, (List.forall_mem_cons.mp earlier).2, fails⟩

theorem resolveItemsCongr {α : Type} {resolve resolve' : α → Except Failure α} {list : List α}
    (same : ∀ item ∈ list, resolve item = resolve' item) :
    resolveItems resolve list = resolveItems resolve' list := by
  induction list with
  | nil => rfl
  | cons item rest ih =>
    obtain ⟨here, later⟩ := List.forall_mem_cons.mp same
    rw [resolveItems, resolveItems, here, ih later]

theorem resolveItemsAppend {α : Type} {resolve : α → Except Failure α} {list rest : List α} :
    resolveItems resolve (list ++ rest) = (do
      let found ← resolveItems resolve list
      let others ← resolveItems resolve rest
      return found ++ others) := by
  induction list with
  | nil =>
    rw [List.nil_append, resolveItems]
    cases resolveItems resolve rest <;> rfl
  | cons item list ih =>
    rw [List.cons_append, resolveItems, ih, resolveItems]
    cases resolve item with
    | error e => rfl
    | ok first =>
      cases resolveItems resolve list with
      | error e => rfl
      | ok found => cases resolveItems resolve rest <;> rfl

inductive Fills {α : Type} (m : Mapping) (blanks : List Blank) (As : α → List Blank → Prop) :
    Except Failure α → Prop where
  | ok {y found} (filled : resolveItems (Blank.resolve m) blanks = .ok found) (same : As y found) :
      Fills m blanks As (.ok y)
  | error {failure} (failed : resolveItems (Blank.resolve m) blanks = .error failure) :
      Fills m blanks As (.error failure)

namespace Fills

variable {α β : Type} {m : Mapping} {blanks others : List Blank} {As : α → List Blank → Prop}
  {As' : β → List Blank → Prop}

theorem pure {y : α} (same : As y []) : Fills m [] As (.ok y) := .ok rfl same

theorem map {result : Except Failure α} {build : α → β} (fills : Fills m blanks As result)
    (builds : ∀ y found, As y found → As' (build y) found) :
    Fills m blanks As' (do return build (← result)) := by
  cases fills with
  | ok filled same => exact .ok filled (builds _ _ same)
  | error failed => exact .error failed

theorem bind {result : Except Failure α} {next : α → Except Failure β}
    (fills : Fills m blanks As result)
    (fillsNext : ∀ y found, As y found →
      Fills m others (fun z filled => As' z (found ++ filled)) (next y)) :
    Fills m (blanks ++ others) As' (result >>= next) := by
  cases fills with
  | error failed => exact .error (by rw [resolveItemsAppend, failed]; rfl)
  | ok filled same =>
    show Fills m _ As' (next _)
    have fillsLast := fillsNext _ _ same
    generalize next _ = last at fillsLast ⊢
    cases fillsLast with
    | ok filled' same' => exact .ok (by rw [resolveItemsAppend, filled, filled']; rfl) same'
    | error failed => exact .error (by rw [resolveItemsAppend, filled, failed]; rfl)

end Fills

structure Traverses {α : Type} (resolve : Mapping → α → Except Failure α) (form : α → α)
    (blanks : α → List Blank) : Prop where
  fills (m : Mapping) (x : α) :
    Fills m (blanks x) (fun y found => form y = form x ∧ blanks y = found) (resolve m x)
  whole {x y : α} {rest rest' : List Blank} (sameForm : form x = form y)
    (sameBlanks : blanks x ++ rest = blanks y ++ rest') : x = y ∧ rest = rest'

namespace Traverses

variable {α β : Type} {resolve : Mapping → α → Except Failure α} {form : α → α}
  {blanks : α → List Blank} {resolve' : Mapping → β → Except Failure β} {form' : β → β}
  {blanks' : β → List Blank} {m : Mapping}

theorem fillsOne {γ : Type} {formOf : γ → γ} {blanksOf : γ → List Blank}
    (h : Traverses resolve form blanks) (build : α → γ)
    (builds : ∀ x, formOf (build x) = build (form x) ∧ blanksOf (build x) = blanks x) (x : α) :
    Fills m (blanksOf (build x))
      (fun z found => formOf z = formOf (build x) ∧ blanksOf z = found)
      (do return build (← resolve m x)) := by
  rw [(builds x).1, (builds x).2]
  refine (h.fills m x).map fun y found same => ?_
  exact ⟨(builds y).1.trans (congrArg build same.1), (builds y).2.trans same.2⟩

theorem fillsTwo {γ : Type} {formOf : γ → γ} {blanksOf : γ → List Blank}
    (h : Traverses resolve form blanks) (h' : Traverses resolve' form' blanks')
    (build : α → β → γ) (builds : ∀ x x', formOf (build x x') = build (form x) (form' x') ∧
      blanksOf (build x x') = blanks x ++ blanks' x') (x : α) (x' : β) :
    Fills m (blanksOf (build x x'))
      (fun z found => formOf z = formOf (build x x') ∧ blanksOf z = found)
      (do
        let first ← resolve m x
        return build first (← resolve' m x')) := by
  rw [(builds x x').1, (builds x x').2]
  refine (h.fills m x).bind fun y found same => (h'.fills m x').map fun y' others same' => ?_
  exact ⟨(builds y y').1.trans (congrArg₂ build same.1 same'.1),
    (builds y y').2.trans (congrArg₂ List.append same.2 same'.2)⟩

theorem wholeTwo (h : Traverses resolve form blanks) (h' : Traverses resolve' form' blanks')
    {x y : α} {x' y' : β} {rest rest' : List Blank} (first : form x = form y)
    (second : form' x' = form' y')
    (same : (blanks x ++ blanks' x') ++ rest = (blanks y ++ blanks' y') ++ rest') :
    x = y ∧ x' = y' ∧ rest = rest' := by
  rw [List.append_assoc, List.append_assoc] at same
  obtain ⟨rfl, others⟩ := h.whole first same
  exact ⟨rfl, h'.whole second others⟩

theorem option (h : Traverses resolve form blanks) :
    Traverses (fun m => resolveOption (resolve m)) (Option.map form) (Option.elim · [] blanks) where
  fills m x := by
    cases x with
    | none => exact .pure ⟨rfl, rfl⟩
    | some part => exact (h.fills m part).map fun _ _ same => ⟨congrArg some same.1, same.2⟩
  whole {x y _ _} sameForm sameBlanks := by
    cases x with
    | none =>
      cases y with
      | none => exact ⟨rfl, sameBlanks⟩
      | some other => cases sameForm
    | some part =>
      cases y with
      | none => cases sameForm
      | some other =>
        obtain ⟨rfl, rest⟩ := h.whole (Option.some.inj sameForm) sameBlanks
        exact ⟨rfl, rest⟩

theorem items (h : Traverses resolve form blanks) :
    Traverses (fun m => resolveItems (resolve m)) (List.map form) (List.flatMap blanks) where
  fills m x := by
    induction x with
    | nil => exact .pure ⟨rfl, rfl⟩
    | cons item rest ih =>
      refine (h.fills m item).bind fun first found same => ih.map fun others filled same' => ?_
      exact ⟨congrArg₂ List.cons same.1 same'.1, congrArg₂ List.append same.2 same'.2⟩
  whole {x y _ _} sameForm sameBlanks := by
    induction x generalizing y with
    | nil =>
      cases y with
      | nil => exact ⟨rfl, sameBlanks⟩
      | cons other rest => cases sameForm
    | cons item list ih =>
      cases y with
      | nil => cases sameForm
      | cons other list' =>
        obtain ⟨first, later⟩ := List.cons.inj sameForm
        rw [List.flatMap_cons, List.flatMap_cons, List.append_assoc, List.append_assoc]
          at sameBlanks
        obtain ⟨rfl, others⟩ := h.whole first sameBlanks
        obtain ⟨rfl, rest⟩ := ih later others
        exact ⟨rfl, rest⟩

variable (h : Traverses resolve form blanks) {x y : α} {failure : Failure}
include h

theorem unique (sameForm : form x = form y) (sameBlanks : blanks x = blanks y) : x = y :=
  (h.whole sameForm (congrArg (· ++ []) sameBlanks)).1

theorem resolvesIff : resolve m x = .ok y ↔ form y = form x ∧
    List.Forall₂ (fun blank filled => blank.resolve m = .ok filled) (blanks x) (blanks y) := by
  rw [← resolveItemsOk]
  constructor
  · intro resolved
    cases resolved ▸ h.fills m x with
    | ok filled same => exact ⟨same.1, same.2 ▸ filled⟩
  · rintro ⟨sameForm, filled⟩
    generalize resolved : resolve m x = result
    cases resolved ▸ h.fills m x with
    | error failed => cases filled.symm.trans failed
    | ok filled' same =>
      have sameBlanks := same.2.trans (Except.ok.inj (filled'.symm.trans filled))
      exact congrArg Except.ok (h.unique (same.1.trans sameForm.symm) sameBlanks)

theorem failsIff : resolve m x = .error failure ↔
    ∃ before blank after, blanks x = before ++ blank :: after ∧
      (∀ earlier ∈ before, ∃ filled, earlier.resolve m = .ok filled) ∧
      blank.resolve m = .error failure := by
  rw [← resolveItemsError]
  constructor
  · intro resolved
    cases resolved ▸ h.fills m x with
    | error failed => exact failed
  · intro failed
    generalize resolved : resolve m x = result
    cases resolved ▸ h.fills m x with
    | error failed' =>
      cases failed'.symm.trans failed
      rfl
    | ok filled _ => cases filled.symm.trans failed

theorem agrees {n : Mapping} (same : ∀ blank ∈ blanks x, blank.resolve n = blank.resolve m) :
    resolve n x = resolve m x := by
  have alike := resolveItemsCongr same
  cases resolved : resolve m x with
  | ok y =>
    rw [h.resolvesIff, ← resolveItemsOk] at resolved ⊢
    exact ⟨resolved.1, alike.trans resolved.2⟩
  | error failure =>
    rw [h.failsIff, ← resolveItemsError] at resolved ⊢
    exact alike.trans resolved

end Traverses

end PageCheck
