import Mathlib.Data.List.Perm.Basic
import PageCheck.Json.Basic

/-!
Maps in order of name. Sorting a map whose names are distinct only moves its pairs, so it holds
what it held before; a map that is in order stays as it is. So nothing changes when a canonical
value is made canonical again.
-/
namespace PageCheck

namespace Keyed

variable {α β : Type}

theorem insertPerm {name : String} {pairs : Keyed α} (value : α) (new : name ∉ names pairs) :
    (insert name value pairs).Perm ((name, value) :: pairs) := by
  induction pairs with
  | nil => exact .refl _
  | cons pair rest ih =>
    obtain ⟨other, kept⟩ := pair
    have differs : name ≠ other := fun same => new (by simp [names, same])
    have newInRest : name ∉ names rest := fun member => new (List.mem_cons_of_mem _ member)
    simp only [insert, if_neg differs]
    split
    · exact .refl _
    · exact ((ih newInRest).cons _).trans (.swap _ _ _)

theorem insertGreatest {name : String} {value : α} {pairs : Keyed α}
    (greatest : ∀ pair ∈ pairs, pair.1 < name) :
    insert name value pairs = pairs ++ [(name, value)] := by
  induction pairs with
  | nil => rfl
  | cons pair rest ih =>
    obtain ⟨other, kept⟩ := pair
    have below : other < name := greatest _ List.mem_cons_self
    have differs : name ≠ other := fun same => String.lt_irrefl other (same ▸ below)
    rw [insert, if_neg (String.lt_asymm below), if_neg differs,
      ih fun later inside => greatest later (List.mem_cons_of_mem _ inside)]
    rfl

theorem insertMap (f : α → β) (name : String) (value : α) (pairs : Keyed α) :
    insert name (f value) (pairs.map fun pair => (pair.1, f pair.2)) =
      (insert name value pairs).map fun pair => (pair.1, f pair.2) := by
  induction pairs with
  | nil => rfl
  | cons pair rest ih =>
    simp only [List.map_cons, insert, ih]
    split
    · rfl
    · split <;> rfl

theorem Increasing.distinct {pairs : Keyed α} (increasing : Increasing pairs) :
    (names pairs).Nodup := by
  rw [names, List.Nodup, List.pairwise_map]
  refine increasing.imp fun {pair later} before same => ?_
  rw [same] at before
  exact String.lt_irrefl later.1 before

abbrev insertAll (done pairs : Keyed α) : Keyed α :=
  pairs.foldl (fun done pair => insert pair.1 pair.2 done) done

theorem insertAllPerm (done : Keyed α) {pairs : Keyed α}
    (distinct : (names (done ++ pairs)).Nodup) :
    (insertAll done pairs).Perm (done ++ pairs) := by
  induction pairs generalizing done with
  | nil => simp [insertAll]
  | cons pair rest ih =>
    have moved : (names (pair :: (done ++ rest))).Nodup :=
      (List.perm_middle.map Prod.fst).nodup_iff.mp distinct
    have new : pair.1 ∉ names done := fun member =>
      (List.nodup_cons.mp moved).1 (by simpa [names] using Or.inl (by simpa [names] using member))
    have inserted := insertPerm pair.2 new
    have still : (names (insert pair.1 pair.2 done ++ rest)).Nodup :=
      ((inserted.append_right rest).map Prod.fst).nodup_iff.mpr moved
    calc insertAll done (pair :: rest)
      _ = insertAll (insert pair.1 pair.2 done) rest := rfl
      List.Perm _ (insert pair.1 pair.2 done ++ rest) := ih _ still
      List.Perm _ (pair :: (done ++ rest)) := inserted.append_right rest
      List.Perm _ (done ++ pair :: rest) := List.perm_middle.symm

theorem sortedPerm {pairs : Keyed α} (distinct : (names pairs).Nodup) :
    (sorted pairs).Perm pairs := insertAllPerm [] distinct

theorem memSorted {pairs : Keyed α} {pair : String × α} (member : pair ∈ sorted pairs) :
    pair ∈ pairs := by
  have all (done rest : Keyed α) (inside : pair ∈ insertAll done rest) :
      pair ∈ done ∨ pair ∈ rest := by
    induction rest generalizing done with
    | nil => exact .inl inside
    | cons first rest ih =>
      rcases ih _ inside with before | later
      · rcases memInsert before with same | earlier
        · exact .inr (same ▸ List.mem_cons_self)
        · exact .inl earlier
      · exact .inr (List.mem_cons_of_mem _ later)
  exact (all [] pairs member).resolve_left List.not_mem_nil

theorem sortedIncreasing (pairs : Keyed α) : Increasing (sorted pairs) := by
  have all (done : Keyed α) (increasing : Increasing done) : Increasing (insertAll done pairs) := by
    induction pairs generalizing done with
    | nil => exact increasing
    | cons pair rest ih => exact ih _ (insertIncreasing increasing)
  exact all [] List.Pairwise.nil

theorem sortedOfIncreasing {pairs : Keyed α} (increasing : Increasing pairs) :
    sorted pairs = pairs := by
  -- in order of name, every pair goes to the end
  have all (done rest : Keyed α) (increasing : Increasing (done ++ rest)) :
      insertAll done rest = done ++ rest := by
    induction rest generalizing done with
    | nil => simp [insertAll]
    | cons pair rest ih =>
      have greatest : ∀ before ∈ done, before.1 < pair.1 := fun before member =>
        (List.pairwise_append.mp increasing).2.2 before member pair List.mem_cons_self
      have step : insertAll done (pair :: rest) = insertAll (done ++ [pair]) rest := by
        rw [← insertGreatest greatest]
        rfl
      rw [step, ih _ (by simpa using increasing)]
      simp
  exact all [] pairs increasing

theorem sortedTwice (pairs : Keyed α) : sorted (sorted pairs) = sorted pairs :=
  sortedOfIncreasing (sortedIncreasing pairs)

theorem sortedPair {first second : String} (order : second < first) (a b : α) :
    sorted [(first, a), (second, b)] = [(second, b), (first, a)] := by
  show insert second b [(first, a)] = _
  rw [insert, if_pos order]

theorem sortedMap (f : α → β) (pairs : Keyed α) :
    sorted (pairs.map fun pair => (pair.1, f pair.2)) =
      (sorted pairs).map fun pair => (pair.1, f pair.2) := by
  have all (done : Keyed α) :
      insertAll (done.map fun pair => (pair.1, f pair.2))
        (pairs.map fun pair => (pair.1, f pair.2)) =
        (insertAll done pairs).map fun pair => (pair.1, f pair.2) := by
    induction pairs generalizing done with
    | nil => rfl
    | cons pair rest ih =>
      rw [List.map_cons]
      show insertAll (insert pair.1 (f pair.2) _) _ = _
      rw [insertMap]
      exact ih _
  exact all []

theorem foundIff {pairs : Keyed α} (distinct : (names pairs).Nodup) {name : String} {value : α} :
    pairs.get? name = some value ↔ (name, value) ∈ pairs := by
  induction pairs with
  | nil => simp [getNil]
  | cons pair rest ih =>
    obtain ⟨other, kept⟩ := pair
    obtain ⟨new, inRest⟩ := List.nodup_cons.mp distinct
    rw [getCons, List.mem_cons]
    split
    · next same =>
      subst same
      have elsewhere : (other, value) ∉ rest := fun member =>
        new (List.mem_map.mpr ⟨_, member, rfl⟩)
      simp [elsewhere, eq_comm]
    · next differs =>
      rw [ih inRest]
      simp [Ne.symm differs]

theorem foundPerm {pairs others : Keyed α} (distinct : (names pairs).Nodup)
    (moved : pairs.Perm others) (name : String) : pairs.get? name = others.get? name := by
  have distinct' : (names others).Nodup := (moved.map Prod.fst).nodup_iff.mp distinct
  ext value
  rw [foundIff distinct, foundIff distinct', moved.mem_iff]

theorem foundSorted {pairs : Keyed α} (distinct : (names pairs).Nodup) (name : String) :
    (sorted pairs).get? name = pairs.get? name :=
  (foundPerm distinct (sortedPerm distinct).symm name).symm

theorem foundMap (f : α → β) (pairs : Keyed α) (name : String) :
    get? (pairs.map fun pair => (pair.1, f pair.2)) name = (pairs.get? name).map f := by
  induction pairs with
  | nil => rfl
  | cons pair rest ih =>
    rw [List.map_cons, getCons, getCons, ih]
    split <;> rfl

@[simp]
theorem foundAppend (pairs others : Keyed α) (name : String) :
    get? (pairs ++ others) name = (pairs.get? name).or (others.get? name) := by
  induction pairs with
  | nil => rfl
  | cons pair rest ih =>
    rw [List.cons_append, getCons, getCons, ih]
    split <;> rfl

end Keyed

theorem Json.canonicalFieldsMap (fields : Fields) :
    Json.canonicalFields fields = fields.map fun field => (field.1, field.2.canonical) := by
  induction fields with
  | nil => rfl
  | cons field rest ih => rw [Json.canonicalFields, ih]; rfl

theorem Json.canonicalFieldsSorted (fields : Fields) :
    Json.canonicalFields (Keyed.sorted fields) = Keyed.sorted (Json.canonicalFields fields) := by
  rw [Json.canonicalFieldsMap, Json.canonicalFieldsMap, Keyed.sortedMap]

mutual

theorem Json.canonicalTwice : (value : Json) → value.canonical.canonical = value.canonical
  | .list items => by
    simp only [Json.canonical]
    rw [Json.canonicalItemsTwice items]
  | .record fields => by
    simp only [Json.canonical]
    rw [Json.canonicalFieldsSorted, Json.canonicalFieldsTwice fields, Keyed.sortedTwice]
  | .null | .bool _ | .number _ | .text _ => rfl

theorem Json.canonicalItemsTwice : (items : List Json) →
    Json.canonicalItems (Json.canonicalItems items) = Json.canonicalItems items
  | [] => rfl
  | item :: rest => by
    simp only [Json.canonicalItems]
    rw [Json.canonicalTwice item, Json.canonicalItemsTwice rest]

theorem Json.canonicalFieldsTwice : (fields : List (String × Json)) →
    Json.canonicalFields (Json.canonicalFields fields) = Json.canonicalFields fields
  | [] => rfl
  | (name, value) :: rest => by
    simp only [Json.canonicalFields]
    rw [Json.canonicalTwice value, Json.canonicalFieldsTwice rest]

end

end PageCheck
