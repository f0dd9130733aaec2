import PageCheck.Deferred
import PageCheck.Proofs.SortedFields

/-!
References and literals are read back from what is written for them, in the order of writing and in
order of name.
-/
namespace PageCheck

mutual

theorem Segment.rereads : (s : Segment) →
    Segment.ofJson s.toJson = some s ∧ Segment.ofJson s.toJson.canonical = some s
  | .literal text => ⟨rfl, rfl⟩
  | .reference key [] => ⟨rfl, rfl⟩
  | .reference key (first :: rest) => by
    have ⟨plain, canonical⟩ := Segment.rereadsAll (first :: rest)
    have inOrder : (Segment.reference key (first :: rest)).toJson.canonical =
        .record [("append", .list (Json.canonicalItems (Segment.toJsonAll (first :: rest)))),
          ("placeholder", .text key)] := by
      have order : "append" < "placeholder" := by decide +kernel
      show Json.record (Keyed.sorted [("placeholder", .text key),
        ("append", .list (Json.canonicalItems (Segment.toJsonAll (first :: rest))))]) = _
      rw [Keyed.sortedPair order]
    constructor
    · show Segment.ofJson (.record [("placeholder", .text key),
        ("append", .list (Segment.toJsonAll (first :: rest)))]) = _
      rw [Segment.ofJson, plain]
      rfl
    · rw [inOrder, Segment.ofJson, canonical]
      rfl

theorem Segment.rereadsAll : (list : List Segment) →
    Segment.ofJsonAll (Segment.toJsonAll list) = some list ∧
      Segment.ofJsonAll (Json.canonicalItems (Segment.toJsonAll list)) = some list
  | [] => ⟨rfl, rfl⟩
  | first :: rest => by
    have ⟨plain, canonical⟩ := Segment.rereads first
    have ⟨plains, canonicals⟩ := Segment.rereadsAll rest
    simp [Segment.toJsonAll, Json.canonicalItems, Segment.ofJsonAll, plain, canonical, plains,
      canonicals]

end

theorem Placeholder.rereads (p : Placeholder) :
    Placeholder.ofJson p.toJson = some p ∧ Placeholder.ofJson p.toJson.canonical = some p := by
  have ⟨plain, canonical⟩ := Segment.rereads (.reference p.key p.append)
  unfold Placeholder.ofJson Placeholder.toJson
  rw [plain, canonical]
  exact ⟨rfl, rfl⟩

class LawfulSlot (α : Type) [Slot α] : Prop where
  rereads (literal : α) : Slot.ofJson (Slot.toJson literal) = some literal
  canonical (literal : α) : (Slot.toJson literal).canonical = Slot.toJson literal
  literal (literal : α) : Placeholder.ofJson (Slot.toJson literal) = none
  notNull (literal : α) : Slot.toJson literal ≠ .null

instance : LawfulSlot String where
  rereads _ := rfl
  canonical _ := rfl
  literal _ := rfl
  notNull _ := nofun

instance : LawfulSlot Bool where
  rereads _ := rfl
  canonical _ := rfl
  literal _ := rfl
  notNull _ := nofun

instance : LawfulSlot Locator where
  rereads := Locator.rereads
  canonical _ := rfl
  literal l := by
    obtain ⟨strategy, selector⟩ := l
    cases strategy <;> rfl
  notNull _ := nofun

section Deferred

variable {α : Type} [Slot α] [LawfulSlot α]

theorem Deferred.rereads (d : Deferred α) :
    Deferred.ofJson d.toJson = some d ∧ Deferred.ofJson (α := α) d.toJson.canonical = some d := by
  unfold Deferred.ofJson
  cases d with
  | reference p =>
    have ⟨plain, canonical⟩ := p.rereads
    simp [Deferred.toJson, plain, canonical]
  | value literal =>
    simp [Deferred.toJson, LawfulSlot.canonical, LawfulSlot.literal, LawfulSlot.rereads]

theorem Deferred.notNull (d : Deferred α) : d.toJson ≠ .null := by
  cases d with
  | reference p => exact nofun
  | value literal => exact LawfulSlot.notNull literal

end Deferred

theorem Deferred.locatorRecord (d : Deferred Locator) :
    ∃ fields, d.toJson.canonical = .record fields := by
  cases d with
  | reference p => exact ⟨_, rfl⟩
  | value literal => exact ⟨_, rfl⟩

end PageCheck
