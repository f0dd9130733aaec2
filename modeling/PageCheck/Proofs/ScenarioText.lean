import PageCheck.Proofs.RoundTrip
import PageCheck.Proofs.WrittenDepth

/-!
Scenarios as text. The numbers of a scenario that can be written are natural and fit into 64 bits, so
that its text is read back as the same scenario, unless it is nested too deep for the reader.
-/
namespace PageCheck

mutual

theorem Json.canonicalPlain : (value : Json) → value.Plain → value.canonical.Plain
  | .null, plain | .bool _, plain | .number _, plain | .text _, plain => plain
  | .list items, plain => Json.canonicalItemsPlain items plain
  | .record fields, plain => by
    refine Json.plainFieldsIff.mpr fun field member => ?_
    exact Json.plainFieldsIff.mp (Json.canonicalFieldsPlain fields plain) field
      (Keyed.memSorted member)

theorem Json.canonicalItemsPlain : (items : List Json) → Json.PlainItems items →
    Json.PlainItems (Json.canonicalItems items)
  | [], _ => trivial
  | item :: rest, plain =>
    ⟨Json.canonicalPlain item plain.1, Json.canonicalItemsPlain rest plain.2⟩

theorem Json.canonicalFieldsPlain : (fields : List (String × Json)) → Json.PlainFields fields →
    Json.PlainFields (Json.canonicalFields fields)
  | [], _ => trivial
  | (_, value) :: rest, plain =>
    ⟨Json.canonicalPlain value plain.1, Json.canonicalFieldsPlain rest plain.2⟩

end

mutual

theorem Segment.plain : (s : Segment) → s.toJson.Plain
  | .literal _ => trivial
  | .reference _ [] => ⟨trivial, trivial⟩
  | .reference _ (first :: rest) => ⟨trivial, Segment.plainAll (first :: rest), trivial⟩

theorem Segment.plainAll : (list : List Segment) → Json.PlainItems (Segment.toJsonAll list)
  | [] => trivial
  | first :: rest => ⟨Segment.plain first, Segment.plainAll rest⟩

end

class PlainlyWritten (α : Type) [Slot α] : Prop where
  plain (literal : α) : (Slot.toJson literal).Plain

instance : PlainlyWritten String where
  plain _ := trivial

instance : PlainlyWritten Bool where
  plain _ := trivial

instance : PlainlyWritten Locator where
  plain _ := ⟨trivial, trivial⟩

theorem Deferred.plain {α : Type} [Slot α] [PlainlyWritten α] (d : Deferred α) :
    d.toJson.Plain := by
  cases d with
  | reference p => exact Segment.plain (.reference p.key p.append)
  | value literal => exact PlainlyWritten.plain literal

theorem Deferred.plainList (values : List (Deferred String)) :
    (Json.list (values.map Deferred.toJson)).Plain :=
  Json.plainItemsIff.mpr (List.forall_mem_map.mpr fun value _ => value.plain)

theorem Json.plainOptional {name : String} {value : Option Json}
    (plain : ∀ written ∈ value, written.Plain) : ∀ field ∈ Json.optional name value, field.2.Plain :=
  Json.forallOptional.mpr plain

theorem Json.plainNonempty {α : Type} {name : String} {parts : List α} {write : α → Json}
    (plain : ∀ part ∈ parts, (write part).Plain) :
    ∀ field ∈ Json.nonempty name (parts.map write), field.2.Plain :=
  Json.forallNonempty.mpr fun _ => Json.plainItemsIff.mpr (List.forall_mem_map.mpr plain)

theorem Directive.plainTimed {name : String} {body : Json} {modifiers : Fields}
    {timeout : Option Nat} (plain : body.Plain) (beside : ∀ field ∈ modifiers, field.2.Plain)
    (fits : fitsTimeout timeout = true) :
    (Json.canonical (.record ((name, body) ::
      (modifiers ++ Json.optional "timeout" (timeout.map Json.nat))))).Plain := by
  refine Json.canonicalPlain _ (Json.plainFieldsIff.mpr ?_)
  refine List.forall_mem_cons.mpr ⟨plain, List.forall_mem_append.mpr ⟨beside, ?_⟩⟩
  refine Json.plainOptional fun written given => ?_
  obtain ⟨time, there, rfl⟩ := Option.map_eq_some_iff.mp given
  exact Json.plainNat (fitsTimeoutIff.mp fits time there)

theorem Deed.plain (deed : Deed) :
    deed.written.1.Plain ∧ ∀ field ∈ deed.written.2, field.2.Plain := by
  cases deed with
  | click target => exact ⟨target.plain, nofun⟩
  | sendKeys target value => exact ⟨target.plain, List.forall_mem_singleton.mpr value.plain⟩
  | clear target mode =>
    cases mode with
    | text => exact ⟨target.plain, nofun⟩
    | checkbox => exact ⟨target.plain, List.forall_mem_singleton.mpr trivial⟩
  | check target values | select target values | unselect target values =>
    exact ⟨target.plain, List.forall_mem_singleton.mpr (Deferred.plainList values)⟩
  | alert answer => exact ⟨trivial, nofun⟩
  | switchTo frame =>
    cases frame with
    | top => exact ⟨trivial, nofun⟩
    | within locator => exact ⟨locator.plain, nofun⟩

theorem Action.plain {a : Action} (fits : fitsTimeout a.timeout = true) : a.toJson.Plain :=
  Directive.plainTimed a.deed.plain.1 a.deed.plain.2 fits

theorem Demand.plainCount (count : Option UInt64) :
    ∀ field ∈ writtenCount count, field.2.Plain := by
  refine Json.plainOptional fun written given => ?_
  obtain ⟨n, _, rfl⟩ := Option.map_eq_some_iff.mp given
  exact Json.plainNat (Nat.le_of_lt_succ n.toNat_lt)

theorem Target.plain (target : Target) : target.toJson.Plain := by
  cases target with
  | element locator => exact locator.plain
  | html | url => trivial

theorem Criterion.plain (criterion : Criterion) : criterion.written.2.Plain := by
  cases criterion with
  | relates relation expected =>
    cases expected with
    | one value => exact value.plain
    | many values => exact Deferred.plainList values
  | likes expected | notLikes expected => exact expected.plain
  | satisfies predicate => trivial

theorem ValueKind.plain (kind : ValueKind) : kind.toJson.Plain := by
  cases kind <;> simp [ValueKind.toJson, Json.Plain, Json.PlainFields]

theorem Demand.plain (demand : Demand) :
    demand.written.1.Plain ∧ ∀ field ∈ demand.written.2, field.2.Plain := by
  cases demand with
  | present presence | absent presence =>
    exact ⟨presence.target.plain, Demand.plainCount presence.count⟩
  | compare c =>
    refine ⟨c.target.plain, List.forall_mem_append.mpr ⟨?_, Demand.plainCount c.count⟩⟩
    refine List.forall_mem_cons.mpr ⟨c.criterion.plain, Json.plainOptional fun written given => ?_⟩
    obtain ⟨kind, _, rfl⟩ := Option.map_eq_some_iff.mp given
    exact kind.plain

theorem Assertion.plain {a : Assertion} (writable : a.isWritable = true) : a.toJson.Plain := by
  have fits := (Bool.and_eq_true_iff.mp writable).1
  exact Directive.plainTimed a.demand.plain.1 a.demand.plain.2 fits

theorem Condition.plain {c : Condition} (writable : c.isWritable = true) : c.toJson.Plain := by
  cases c with
  | flag value => exact Json.canonicalPlain _ ⟨value.plain, trivial⟩
  | assertion a => exact Assertion.plain writable

theorem Guard.plain {g : Guard} (writable : g.isWritable = true) : g.toJson.Plain := by
  have each := Guard.writableIff.mp writable
  refine Json.plainItemsIff.mpr (List.forall_mem_map.mpr fun group inside => ?_)
  exact Json.plainItemsIff.mpr (List.forall_mem_map.mpr fun c member =>
    Condition.plain (each group inside c member))

theorem StepBody.plain {b : StepBody} (writable : b.isWritable = true) :
    ∀ field ∈ b.written, field.2.Plain := by
  obtain ⟨guarded, inTime, checkable⟩ := StepBody.writableIff.mp writable
  have deferred {α : Type} [Slot α] [PlainlyWritten α] {name : String}
      (value : Option (Deferred α)) :
      ∀ field ∈ Json.optional name (value.map Deferred.toJson), field.2.Plain := by
    refine Json.plainOptional fun written given => ?_
    obtain ⟨d, _, rfl⟩ := Option.map_eq_some_iff.mp given
    exact d.plain
  have guard : ∀ field ∈ Json.optional "execif" (b.execif.map Guard.toJson), field.2.Plain := by
    refine Json.plainOptional fun written given => ?_
    obtain ⟨g, there, rfl⟩ := Option.map_eq_some_iff.mp given
    exact Guard.plain (guarded g there)
  simp only [StepBody.written, List.forall_mem_append]
  exact ⟨⟨⟨⟨deferred b.url, deferred b.link⟩, guard⟩,
    Json.plainNonempty fun a member => Action.plain (inTime a member)⟩,
    Json.plainNonempty fun a member => Assertion.plain (checkable a member)⟩

mutual

theorem Step.plain : (s : Step) → s.isWritable = true → s.toJson.Plain
  | ⟨body, nested⟩, writable => by
    rw [Step.isWritable, Bool.and_eq_true] at writable
    rw [Step.toJson]
    exact Json.plainFieldsIff.mpr (List.forall_mem_append.mpr ⟨StepBody.plain writable.1,
      Step.plainNested nested writable.2⟩)

theorem Step.plainNested : (nested : Option (List Step)) → Step.isWritableNested nested = true →
    ∀ field ∈ Step.writtenNested nested, field.2.Plain
  | none, _ => nofun
  | some steps, writable => List.forall_mem_singleton.mpr (Step.plainList steps writable)

theorem Step.plainList : (steps : List Step) → Step.isWritableList steps = true →
    Json.PlainItems (Step.listToJson steps)
  | [], _ => trivial
  | step :: rest, writable => by
    rw [Step.isWritableList, Bool.and_eq_true] at writable
    exact ⟨Step.plain step writable.1, Step.plainList rest writable.2⟩

end

theorem Scenario.textReread [Readers] {s : Scenario} (writable : s.isWritable = true) :
    (s.toJson.depth ≤ Json.depthLimit → Scenario.ofText s.toJson.compact = .ok s) ∧
    (¬ s.toJson.depth ≤ Json.depthLimit →
      ∃ failure, Scenario.ofText s.toJson.compact = .error failure ∧
        failure.name = "ParseError") := by
  have plain : s.toJson.Plain := Step.plainList s writable
  unfold Scenario.ofText
  rw [Json.readCompact plain]
  constructor
  · intro shallow
    rw [if_pos shallow]
    exact s.rereads .json _ writable
  · intro deep
    rw [if_neg deep]
    exact ⟨_, rfl, rfl⟩

end PageCheck
