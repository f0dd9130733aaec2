import PageCheck.Proofs.DirectiveGrammar
import PageCheck.Proofs.WrittenText

/-!
How deep the written form of a value is nested, compared with the document that it was read from. Of
a reference only an empty list of appended segments gets lost. Such a list stands at an even level,
so that the written form reaches every odd level which the document reaches.
-/
namespace PageCheck

namespace Json

theorem itemsWithin {items : List Json} {room : Nat} :
    depthItems items ≤ room ↔ ∀ item ∈ items, item.depth ≤ room := by
  induction items with
  | nil => simp [depthItems]
  | cons item rest ih => rw [depthItems, Nat.max_le, ih, List.forall_mem_cons]

theorem fieldsWithin {fields : Fields} {room : Nat} :
    depthFields fields ≤ room ↔ ∀ field ∈ fields, field.2.depth ≤ room := by
  induction fields with
  | nil => simp [depthFields]
  | cons field rest ih => rw [depthFields, Nat.max_le, ih, List.forall_mem_cons]

theorem listWithin {items : List Json} {room : Nat} :
    (Json.list items).depth ≤ room ↔ 0 < room ∧ ∀ item ∈ items, item.depth ≤ room - 1 := by
  rw [depth, ← itemsWithin]
  omega

theorem recordWithin {fields : Fields} {room : Nat} :
    (Json.record fields).depth ≤ room ↔ 0 < room ∧ ∀ field ∈ fields, field.2.depth ≤ room - 1 := by
  rw [depth, ← fieldsWithin]
  omega

theorem itemBelow {items : List Json} {item : Json} (member : item ∈ items) :
    item.depth < (Json.list items).depth :=
  Nat.lt_succ_of_le (itemsWithin.mp (Nat.le_refl _) item member)

theorem fieldBelow {fields : Fields} {field : String × Json} (member : field ∈ fields) :
    field.2.depth < (Json.record fields).depth :=
  Nat.lt_succ_of_le (fieldsWithin.mp (Nat.le_refl _) field member)

theorem forallOptional {name : String} {value : Option Json} {p : Json → Prop} :
    (∀ field ∈ optional name value, p field.2) ↔ ∀ written ∈ value, p written := by
  cases value <;> simp [optional]

theorem forallNonempty {name : String} {items : List Json} {p : Json → Prop} :
    (∀ field ∈ nonempty name items, p field.2) ↔ (items ≠ [] → p (.list items)) := by
  cases items <;> simp [nonempty]

theorem foundWithin {fields : Fields} {room : Nat} (within : ∀ field ∈ fields, field.2.depth ≤ room)
    {name : String} {value : Json} (found : fields.get? name = some value) : value.depth ≤ room :=
  within _ (Keyed.memberOfFound found)

theorem canonicalNames (fields : Fields) :
    Keyed.names (canonicalFields fields) = fields.names := by
  simp [canonicalFieldsMap, Keyed.names]

theorem canonicalWithin {fields : Fields} (distinct : fields.names.Nodup) {room : Nat} :
    (canonical (.record fields)).depth ≤ room ↔
      0 < room ∧ ∀ field ∈ fields, field.2.canonical.depth ≤ room - 1 := by
  have moved := Keyed.sortedPerm ((canonicalNames fields).symm ▸ distinct)
  rw [canonical, recordWithin]
  simp only [moved.mem_iff]
  rw [canonicalFieldsMap, List.forall_mem_map]

end Json

mutual

theorem Json.canonicalShallower : (value : Json) → value.canonical.depth ≤ value.depth
  | .null | .bool _ | .number _ | .text _ => Nat.le_refl _
  | .list items => Nat.succ_le_succ (Json.canonicalItemsShallower items)
  | .record fields => by
    refine Nat.succ_le_succ (Json.fieldsWithin.mpr fun field member => ?_)
    exact Json.fieldsWithin.mp (Json.canonicalFieldsShallower fields) field
      (Keyed.memSorted member)

theorem Json.canonicalItemsShallower : (items : List Json) →
    Json.depthItems (Json.canonicalItems items) ≤ Json.depthItems items
  | [] => Nat.le_refl 0
  | item :: rest => by
    have first := Json.canonicalShallower item
    have others := Json.canonicalItemsShallower rest
    rw [Json.canonicalItems, Json.depthItems, Json.depthItems]
    omega

theorem Json.canonicalFieldsShallower : (fields : List (String × Json)) →
    Json.depthFields (Json.canonicalFields fields) ≤ Json.depthFields fields
  | [] => Nat.le_refl 0
  | (_, value) :: rest => by
    have first := Json.canonicalShallower value
    have others := Json.canonicalFieldsShallower rest
    rw [Json.canonicalFields, Json.depthFields, Json.depthFields]
    omega

end

inductive Segment.Form : Json → Segment → Prop where
  | literal (text : String) : Form (.text text) (.literal text)
  | bareList (key : String) : Form (.list [.text key]) (.reference key [])
  | bareRecord (key : String) : Form (.record [("placeholder", .text key)]) (.reference key [])
  | list (key : String) {items segments} (read : Segment.ofJsonAll items = some segments) :
    Form (.list [.text key, .list items]) (.reference key segments)
  | record (key : String) {items segments} (read : Segment.ofJsonAll items = some segments) :
    Form (.record [("placeholder", .text key), ("append", .list items)]) (.reference key segments)
  | recordBack (key : String) {items segments} (read : Segment.ofJsonAll items = some segments) :
    Form (.record [("append", .list items), ("placeholder", .text key)]) (.reference key segments)

theorem Segment.formOf {written : Json} {s : Segment} (read : Segment.ofJson written = some s) :
    Segment.Form written s := by
  unfold Segment.ofJson at read
  split at read
  · cases read
    exact .literal _
  · cases read
    exact .bareList _
  · obtain ⟨segments, found, rfl⟩ := Option.map_eq_some_iff.mp read
    exact .list _ found
  · cases read
    exact .bareRecord _
  · obtain ⟨segments, found, rfl⟩ := Option.map_eq_some_iff.mp read
    exact .record _ found
  · obtain ⟨segments, found, rfl⟩ := Option.map_eq_some_iff.mp read
    exact .recordBack _ found
  · cases read

structure Json.Keeps (written shown : Nat) : Prop where
  within : shown ≤ written
  reaches : written % 2 = 1 → written ≤ shown

theorem Json.Keeps.refl (level : Nat) : Json.Keeps level level :=
  ⟨Nat.le_refl level, fun _ => Nat.le_refl level⟩

theorem Segment.referenceKeeps (key : String) {segments : List Segment} {written : Nat}
    (inner : Json.Keeps written (Json.depthItems (Segment.toJsonAll segments))) :
    Json.Keeps (written + 2) (Segment.reference key segments).toJson.depth := by
  obtain ⟨within, reaches⟩ := inner
  cases segments with
  | nil =>
    have none : Json.depthItems (Segment.toJsonAll []) = 0 := rfl
    have flat : (Segment.reference key []).toJson.depth = 1 := rfl
    constructor <;> omega
  | cons first rest =>
    have deep : (Segment.reference key (first :: rest)).toJson.depth =
        max 0 (max (Json.depthItems (Segment.toJsonAll (first :: rest)) + 1) 0) + 1 := rfl
    constructor <;> omega

mutual

theorem Segment.keepsDepth : (s : Segment) → ∀ {written : Json}, Segment.ofJson written = some s →
    Json.Keeps written.depth s.toJson.depth
  | .literal text, written, read => by
    cases Segment.formOf read
    exact .refl 0
  | .reference key append, written, read => by
    cases Segment.formOf read with
    | bareList | bareRecord => exact .refl 1
    | list _ inner | record _ inner | recordBack _ inner =>
      have keeps := Segment.referenceKeeps key (Segment.keepsDepthAll append inner)
      simpa [Json.depth, Json.depthItems, Json.depthFields] using keeps

theorem Segment.keepsDepthAll : (list : List Segment) → ∀ {items : List Json},
    Segment.ofJsonAll items = some list →
    Json.Keeps (Json.depthItems items) (Json.depthItems (Segment.toJsonAll list))
  | [], items, read => by
    cases items with
    | nil => exact .refl 0
    | cons item more =>
      rw [Segment.ofJsonAll] at read
      obtain ⟨_, _, read⟩ := Option.bind_eq_some_iff.mp read
      obtain ⟨_, _, same⟩ := Option.bind_eq_some_iff.mp read
      cases same
  | first :: rest, items, read => by
    cases items with
    | nil => cases read
    | cons item more =>
      rw [Segment.ofJsonAll] at read
      obtain ⟨_, found, read⟩ := Option.bind_eq_some_iff.mp read
      obtain ⟨_, following, same⟩ := Option.bind_eq_some_iff.mp read
      cases same
      obtain ⟨within, reaches⟩ := Segment.keepsDepth first found
      obtain ⟨within', reaches'⟩ := Segment.keepsDepthAll rest following
      rw [Segment.toJsonAll, Json.depthItems, Json.depthItems]
      constructor <;> omega

end

mutual

theorem Segment.canonicalDepth : (s : Segment) → s.toJson.canonical.depth = s.toJson.depth
  | .literal _ => rfl
  | .reference _ [] => rfl
  | .reference key (first :: rest) => by
    have inner := Segment.canonicalDepthAll (first :: rest)
    have order : "append" < "placeholder" := by decide +kernel
    show (Json.record (Keyed.sorted [("placeholder", .text key),
      ("append", .list (Json.canonicalItems (Segment.toJsonAll (first :: rest))))])).depth =
        max 0 (max (Json.depthItems (Segment.toJsonAll (first :: rest)) + 1) 0) + 1
    rw [Keyed.sortedPair order, ← inner]
    show max (Json.depthItems (Json.canonicalItems (Segment.toJsonAll (first :: rest))) + 1)
      (max 0 0) + 1 = _
    omega

theorem Segment.canonicalDepthAll : (list : List Segment) →
    Json.depthItems (Json.canonicalItems (Segment.toJsonAll list)) =
      Json.depthItems (Segment.toJsonAll list)
  | [] => rfl
  | first :: rest => by
    rw [Segment.toJsonAll, Json.canonicalItems, Json.depthItems, Json.depthItems,
      Segment.canonicalDepth first, Segment.canonicalDepthAll rest]

end

class LevelSlot (α : Type) [Slot α] : Prop where
  sameDepth {written : Json} {x : α} (found : Slot.ofJson written = some x) :
    (Slot.toJson x).depth = written.depth

instance : LevelSlot String where
  sameDepth {written x} found := by
    cases written with
    | text value => rfl
    | _ => cases found

instance : LevelSlot Bool where
  sameDepth {written x} found := by
    cases written with
    | bool value => rfl
    | _ => cases found

theorem Locator.textsFlat {fields : Fields} {texts : Keyed String}
    (read : Locator.textFields fields = some texts) : Json.depthFields fields = 0 := by
  induction fields generalizing texts with
  | nil => rfl
  | cons field rest ih =>
    unfold Locator.textFields at read
    split at read
    · next same => cases same
    · next same =>
      cases same
      obtain ⟨others, following, _⟩ := Option.map_eq_some_iff.mp read
      rw [Json.depthFields, ih following]
      rfl
    · cases read

instance : LevelSlot Locator where
  sameDepth {written l} found := by
    cases written with
    | record fields =>
      obtain ⟨texts, read, _⟩ := Option.bind_eq_some_iff.mp found
      rw [Json.depth, Locator.textsFlat read]
      rfl
    | _ => cases found

section Deferred

variable {α : Type} [Slot α]

theorem Deferred.keepsDepth [LevelSlot α] {written : Json} {d : Deferred α}
    (reads : Deferred.Reads written d) : Json.Keeps written.depth d.toJson.depth := by
  cases reads with
  | reference found =>
    unfold Placeholder.ofJson at found
    split at found
    · next read =>
      cases found
      exact Segment.keepsDepth _ read
    · cases found
  | literal found =>
    rw [Deferred.toJson, LevelSlot.sameDepth found]
    exact .refl _

theorem Deferred.canonicalDepth [LawfulSlot α] (d : Deferred α) :
    d.toJson.canonical.depth = d.toJson.depth := by
  cases d with
  | reference p => exact Segment.canonicalDepth (.reference p.key p.append)
  | value x => rw [Deferred.toJson, LawfulSlot.canonical]

end Deferred

end PageCheck
