/-!
Values under names. A list of pairs serves as a map: `Keyed.insert` keeps the names in increasing
order, so a list built by it holds every name once. Main statements: what is found after an
insertion and after a removal, and that insertions keep the order.
-/
namespace PageCheck

abbrev Keyed (α : Type) := List (String × α)

namespace Keyed

variable {α : Type}

def insert (name : String) (value : α) : Keyed α → Keyed α
  | [] => [(name, value)]
  | (other, kept) :: rest =>
    if name < other then (name, value) :: (other, kept) :: rest
    else if name = other then (name, value) :: rest
    else (other, kept) :: insert name value rest

def sorted (pairs : Keyed α) : Keyed α :=
  pairs.foldl (fun done pair => insert pair.1 pair.2 done) []

def get? (pairs : Keyed α) (name : String) : Option α :=
  (pairs.find? fun pair => pair.1 = name).map (·.2)

def erase (pairs : Keyed α) (name : String) : Keyed α :=
  pairs.filter fun pair => pair.1 ≠ name

def names (pairs : Keyed α) : List String := pairs.map (·.1)

def has (pairs : Keyed α) (name : String) : Bool := pairs.any fun pair => pair.1 = name

def Increasing (pairs : Keyed α) : Prop := pairs.Pairwise fun a b => a.1 < b.1

theorem getNil (name : String) : get? ([] : Keyed α) name = none := rfl

theorem getCons (pair : String × α) (rest : Keyed α) (name : String) :
    get? (pair :: rest) name = if pair.1 = name then some pair.2 else get? rest name := by
  by_cases same : pair.1 = name <;> simp [get?, same]

theorem getInsert (name other : String) (value : α) (pairs : Keyed α) :
    (insert name value pairs).get? other =
      if other = name then some value else pairs.get? other := by
  induction pairs with
  | nil => simp [insert, getCons, eq_comm]
  | cons pair rest ih =>
    obtain ⟨key, kept⟩ := pair
    simp only [insert]
    split
    · simp [getCons, eq_comm]
    · split
      · next same => subst same; simp only [getCons, eq_comm]; split <;> simp_all
      · next differ =>
        simp only [getCons, ih]
        by_cases atKey : key = other
        · subst atKey; simp [Ne.symm differ]
        · simp [atKey]

theorem getErase (pairs : Keyed α) (name other : String) :
    (pairs.erase name).get? other = if other = name then none else pairs.get? other := by
  induction pairs with
  | nil => simp [erase, getNil]
  | cons pair rest ih =>
    simp only [erase] at ih
    by_cases dropped : pair.1 = name
    · simp only [erase, dropped, ne_eq, not_true_eq_false, decide_false, Bool.false_eq_true,
        not_false_eq_true, List.filter_cons_of_neg, ih, getCons]
      by_cases same : other = name
      · simp [same]
      · simp [same, Ne.symm same]
    · simp only [erase, ne_eq, dropped, not_false_eq_true, decide_true, List.filter_cons_of_pos,
        getCons, ih]
      by_cases found : pair.1 = other
      · have : other ≠ name := fun h => dropped (found.trans h)
        simp [found, this]
      · simp [found]

theorem hasFound (pairs : Keyed α) (name : String) :
    pairs.has name = (pairs.get? name).isSome := by
  induction pairs with
  | nil => rfl
  | cons pair rest ih =>
    simp only [has, List.any_cons] at ih ⊢
    rw [getCons, ih]
    by_cases same : pair.1 = name <;> simp [same]

theorem foundMember {pairs : Keyed α} {name : String} {value : α}
    (found : pairs.get? name = some value) : (name, value) ∈ pairs := by
  obtain ⟨⟨other, kept⟩, first, rfl⟩ := Option.map_eq_some_iff.mp found
  have same : other = name := by simpa using List.find?_some first
  exact same ▸ List.mem_of_find?_eq_some first

theorem memInsert {name : String} {value : α} {pairs : Keyed α} {pair : String × α}
    (member : pair ∈ insert name value pairs) : pair = (name, value) ∨ pair ∈ pairs := by
  induction pairs with
  | nil => exact .inl (List.mem_singleton.mp member)
  | cons first rest ih =>
    unfold insert at member
    split at member
    · exact List.mem_cons.mp member
    · split at member
      · exact (List.mem_cons.mp member).imp_right (List.mem_cons_of_mem _)
      · rcases List.mem_cons.mp member with same | inside
        · exact .inr (same ▸ List.mem_cons_self)
        · exact (ih inside).imp_right (List.mem_cons_of_mem _)

theorem insertIncreasing {name : String} {value : α} {pairs : Keyed α}
    (increasing : Increasing pairs) : Increasing (insert name value pairs) := by
  induction pairs with
  | nil => exact List.pairwise_singleton _ _
  | cons pair rest ih =>
    obtain ⟨other, kept⟩ := pair
    obtain ⟨above, inRest⟩ := List.pairwise_cons.mp increasing
    unfold insert
    split
    · next below =>
      refine List.pairwise_cons.mpr ⟨fun later member => ?_, increasing⟩
      rcases List.mem_cons.mp member with rfl | inside
      · exact below
      · exact String.lt_trans below (above later inside)
    · next notBelow =>
      split
      · next same =>
        exact List.pairwise_cons.mpr ⟨fun later inside => same ▸ above later inside, inRest⟩
      · next differs =>
        refine List.pairwise_cons.mpr ⟨fun later member => ?_, ih inRest⟩
        rcases memInsert member with rfl | inside
        · exact Decidable.byContradiction fun notAbove =>
            differs (String.le_antisymm notAbove notBelow)
        · exact above later inside

end Keyed

end PageCheck
