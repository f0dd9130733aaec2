import PageCheck.Proofs.ActionGrammar
import PageCheck.Proofs.WrittenDepth

/-!
Directive maps with their shorthands written out: the attribute that a key names as a type beside the
value, and the one value of a group of elements as a list. A map is shown within a number of nested
containers just when it would be within them if it had been written out.
-/
namespace PageCheck

namespace Directive

def groups : List String := ["check", "select", "unselect"]

def spelledField (grouped : Bool) (field : String × Json) : Fields :=
  match namedAttribute? field.1 with
  | some attr => [("type", .record [("attr", .text attr)]), ("value", field.2)]
  | none => if grouped ∧ field.1 = "value" then [("values", .list [field.2])] else [field]

def spelledOut (map : Fields) : Fields :=
  map.flatMap (spelledField (map.any fun field => field.1 ∈ groups))

variable {map : Fields} {room : Nat}

theorem spelledFieldWithin {grouped : Bool} {field : String × Json}
    (fits : field.2.depth ≤ room) :
    (∀ spelled ∈ spelledField grouped field, spelled.2.depth ≤ room) ↔
      (∀ attr, field.1 = "attr_" ++ attr → 0 < room) ∧
        (grouped = true → field.1 = "value" → field.2.depth < room) := by
  unfold spelledField
  cases found : namedAttribute? field.1 with
  | some attr =>
    have named := namedIff.mp found
    have typeDepth : (Json.record [("attr", .text attr)]).depth = 1 := rfl
    have other : field.1 ≠ "value" := fun same =>
      Demand.unnamedModifiers "value" (by decide) attr (same.symm.trans named)
    simp only [List.forall_mem_cons, List.not_mem_nil, typeDepth]
    constructor
    · rintro ⟨room, -⟩
      exact ⟨fun _ _ => room, fun _ value => absurd value other⟩
    · rintro ⟨room, -⟩
      exact ⟨room attr named, fits, nofun⟩
  | none =>
    have unnamed : ∀ attr, field.1 = "attr_" ++ attr → 0 < room := fun attr named =>
      nomatch found.symm.trans (namedIff.mpr named)
    dsimp only
    split
    · next single =>
      rw [List.forall_mem_singleton, Json.listWithin, List.forall_mem_singleton]
      constructor
      · rintro ⟨room, within⟩
        exact ⟨unnamed, fun _ _ => by omega⟩
      · rintro ⟨-, within⟩
        have deeper := within single.1 single.2
        exact ⟨by omega, by omega⟩
    · next other =>
      rw [List.forall_mem_singleton]
      exact iff_of_true fits ⟨unnamed, fun grouped value => absurd ⟨grouped, value⟩ other⟩

theorem spelledWithin (fits : ∀ field ∈ map, field.2.depth ≤ room) :
    (∀ field ∈ spelledOut map, field.2.depth ≤ room) ↔
      (∀ name ∈ map.names, ∀ attr, name = "attr_" ++ attr → 0 < room) ∧
        ((∃ name ∈ map.names, name ∈ groups) → ∀ value, ("value", value) ∈ map →
          value.depth < room) := by
  have grouped : (map.any fun field => field.1 ∈ groups) = true ↔
      ∃ name ∈ map.names, name ∈ groups := by
    simp [Keyed.names]
  unfold spelledOut
  rw [← grouped]
  simp only [List.forall_mem_flatMap, Keyed.names, List.forall_mem_map]
  constructor
  · intro within
    have each := fun field member => (spelledFieldWithin (fits field member)).mp
      (within field member)
    exact ⟨fun field member => (each field member).1,
      fun grouped value member => (each _ member).2 grouped rfl⟩
  · rintro ⟨room, deeper⟩ field member
    refine (spelledFieldWithin (fits field member)).mpr ⟨room field member, fun grouped named => ?_⟩
    exact deeper grouped field.2 (named ▸ member)

theorem spelledOneMore (map : Fields) :
    (Json.record (spelledOut map)).depth ≤ (Json.record map).depth + 1 := by
  obtain ⟨positive, within⟩ := Json.recordWithin.mp (Nat.le_refl (Json.record map).depth)
  have fits : ∀ field ∈ map, field.2.depth ≤ (Json.record map).depth := fun field member =>
    Nat.le_trans (within field member) (Nat.sub_le _ _)
  refine Json.recordWithin.mpr ⟨Nat.succ_pos _, (spelledWithin fits).mpr ⟨?_, ?_⟩⟩
  · exact fun _ _ _ _ => positive
  · exact fun _ value member => Nat.lt_of_le_pred positive (within _ member)

end Directive

section Values

variable {α : Type} [Slot α] [LawfulSlot α] [LevelSlot α] {fields : Fields} {room : Nat}

theorem Deferred.shownWithin {written : Json} {d : Deferred α} (reads : Deferred.Reads written d)
    (fits : written.depth ≤ room) : d.toJson.canonical.depth ≤ room := by
  rw [d.canonicalDepth]
  exact Nat.le_trans (Deferred.keepsDepth reads).within fits

theorem Deferred.givenWithin {name : String} {d : Deferred α}
    (fits : ∀ field ∈ fields, field.2.depth ≤ room)
    (gives : fields.Gives name Deferred.Reads d) : d.toJson.canonical.depth ≤ room := by
  obtain ⟨written, found, reads⟩ := gives
  exact Deferred.shownWithin reads (Json.foundWithin fits found)

end Values

theorem Json.canonicalItemsMap (items : List Json) :
    Json.canonicalItems items = items.map Json.canonical := by
  induction items with
  | nil => rfl
  | cons item rest ih => rw [Json.canonicalItems, ih]; rfl

theorem Json.canonicalListWithin {items : List Json} {room : Nat} :
    (Json.list items).canonical.depth ≤ room ↔
      0 < room ∧ ∀ item ∈ items, item.canonical.depth ≤ room - 1 := by
  rw [Json.canonical, Json.canonicalItemsMap, Json.listWithin, List.forall_mem_map]

theorem Deferred.listWithin {values : List (Deferred String)} {written : Json} {room : Nat}
    (lists : Deferred.Lists written values) (fits : written.depth ≤ room) :
    (Json.list (values.map Deferred.toJson)).canonical.depth ≤ room := by
  obtain ⟨items, rfl, reads⟩ := lists
  obtain ⟨some, each⟩ := Json.listWithin.mp fits
  refine Json.canonicalListWithin.mpr ⟨some, List.forall_mem_map.mpr ?_⟩
  clear fits
  induction reads with
  | nil => nofun
  | cons stands _ ih =>
    obtain ⟨first, others⟩ := List.forall_mem_cons.mp each
    exact List.forall_mem_cons.mpr ⟨Deferred.shownWithin stands first, ih others⟩

namespace Deed

theorem IsGroup.written {name : String} {build : Deferred Locator → List (Deferred String) → Deed}
    (group : IsGroup name build) (target : Deferred Locator) (values : List (Deferred String)) :
    (build target values).written =
      (target.toJson, [("values", .list (values.map Deferred.toJson))]) := by
  cases group <;> rfl

theorem IsGroup.grouped {name : String} {build : Deferred Locator → List (Deferred String) → Deed}
    (group : IsGroup name build) (target : Deferred Locator) (values : List (Deferred String)) :
    (build target values).directive ∈ Directive.groups := by
  rw [group.named]
  cases group <;> decide

theorem StandsIn.spells {deed : Deed} {body : Json} {rest : Fields}
    (stands : deed.StandsIn Answer.Reads body rest) {room : Nat} (odd : room % 2 = 1)
    (atBody : body.depth ≤ room) (fits : ∀ field ∈ rest, field.2.depth ≤ room) :
    (deed.written.1.canonical.depth ≤ room ∧
      ∀ field ∈ deed.written.2, field.2.canonical.depth ≤ room) ↔
      (deed.directive ∈ Directive.groups → ∀ value, rest.get? "value" = some value →
        value.depth < room) := by
  have alone {deed : Deed} (name : String) (named : deed.directive = name)
      (other : name ∉ Directive.groups)
      (shown : deed.written.1.canonical.depth ≤ room ∧
        ∀ field ∈ deed.written.2, field.2.canonical.depth ≤ room) :
      (deed.written.1.canonical.depth ≤ room ∧
        ∀ field ∈ deed.written.2, field.2.canonical.depth ≤ room) ↔
        (deed.directive ∈ Directive.groups → ∀ value, rest.get? "value" = some value →
          value.depth < room) :=
    iff_of_true shown fun group => absurd (named ▸ group) other
  cases stands with
  | click locates =>
    exact alone "click" rfl (by decide) ⟨Deferred.shownWithin locates atBody, nofun⟩
  | sendKeys locates gives =>
    refine alone "sendKeys" rfl (by decide) ⟨Deferred.shownWithin locates atBody, ?_⟩
    exact List.forall_mem_singleton.mpr (Deferred.givenWithin fits gives)
  | clear locates =>
    exact alone "clear" rfl (by decide) ⟨Deferred.shownWithin locates atBody, nofun⟩
  | uncheck locates =>
    refine alone "clear" rfl (by decide) ⟨Deferred.shownWithin locates atBody, ?_⟩
    exact List.forall_mem_singleton.mpr (Nat.zero_le room)
  | alert => exact alone "alert" rfl (by decide) ⟨Nat.zero_le room, nofun⟩
  | switchTo framed =>
    refine alone "switchTo" rfl (by decide) ?_
    cases framed with
    | top => exact ⟨Nat.zero_le room, nofun⟩
    | within locates => exact ⟨Deferred.shownWithin locates atBody, nofun⟩
  | @several _ _ _ values group locates gives only =>
    obtain ⟨written, found, lists⟩ := gives
    have absent : rest.get? "value" = none := only.absent (by decide)
    rw [group.written]
    refine iff_of_true ⟨Deferred.shownWithin locates atBody, ?_⟩
      fun _ value found => nomatch absent.symm.trans found
    exact List.forall_mem_singleton.mpr (Deferred.listWithin lists (Json.foundWithin fits found))
  | @single _ _ target value group locates gives =>
    obtain ⟨written, found, reads⟩ := gives
    have keeps := Deferred.keepsDepth reads
    have before := Json.foundWithin fits found
    rw [group.written, List.forall_mem_singleton, Json.canonicalListWithin, List.map_singleton,
      List.forall_mem_singleton, value.canonicalDepth]
    obtain ⟨within, reaches⟩ := keeps
    constructor
    · rintro ⟨-, some, fits⟩ - other same
      cases found.symm.trans same
      -- an odd level that is reached in writing is reached in the written form
      omega
    · intro deeper
      have below := deeper (group.grouped target [value]) written found
      exact ⟨Deferred.shownWithin locates atBody, by omega, by omega⟩

end Deed

theorem Target.Reads.shownWithin {written : Json} {target : Target} {room : Nat}
    (reads : Target.Reads written target) (fits : written.depth ≤ room) :
    target.toJson.canonical.depth ≤ room := by
  cases reads with
  | html | url => exact Nat.zero_le room
  | element reads => exact Deferred.shownWithin reads fits

theorem ValueKind.canonical (kind : ValueKind) : kind.toJson.canonical = kind.toJson := by
  cases kind <;> rfl

namespace Demand

theorem countWithin (count : Option UInt64) {room : Nat} :
    ∀ field ∈ writtenCount count, field.2.canonical.depth ≤ room := by
  refine (Json.forallOptional (p := fun written => written.canonical.depth ≤ room)).mpr ?_
  intro written given
  obtain ⟨n, _, rfl⟩ := Option.map_eq_some_iff.mp given
  exact Nat.zero_le room

theorem comparisonWithin {c : Comparison} {room : Nat} :
    (∀ field ∈ (Demand.compare c).written.2, field.2.canonical.depth ≤ room) ↔
      c.criterion.written.2.canonical.depth ≤ room ∧
        ∀ kind ∈ c.kind, kind.toJson.depth ≤ room := by
  show (∀ field ∈ (c.criterion.written :: Json.optional "type" _) ++ writtenCount c.count, _) ↔ _
  rw [List.cons_append, List.forall_mem_cons, List.forall_mem_append, and_iff_left (countWithin c.count),
    Json.forallOptional (p := fun written => written.canonical.depth ≤ room)]
  refine and_congr_right fun _ => ?_
  cases c.kind <;> simp [ValueKind.canonical]

theorem StandsIn.spells {demand : Demand} {body : Json} {rest : Fields}
    (stands : demand.StandsIn body rest) {room : Nat} (atBody : body.depth ≤ room)
    (fits : ∀ field ∈ rest, field.2.depth ≤ room) :
    (demand.written.1.canonical.depth ≤ room ∧
      ∀ field ∈ demand.written.2, field.2.canonical.depth ≤ room) ↔
      ∀ name ∈ rest.names, ∀ attr, name = "attr_" ++ attr → 0 < room := by
  have unnamed {keys : List String} (only : rest.Only keys)
      (known : keys ⊆ Assertion.modifierKeys) :
      ∀ name ∈ rest.names, ∀ attr, name = "attr_" ++ attr → 0 < room :=
    fun name member attr named =>
      (Demand.unnamedModifiers name (known (only name member)) attr named).elim
  have typed {kind : Option ValueKind} (typed : rest.May "type" ValueKind.Reads kind) :
      ∀ k ∈ kind, k.toJson.depth ≤ room := by
    cases typed with
    | missing => nofun
    | given gives =>
      obtain ⟨written, found, rfl⟩ := gives
      rintro _ ⟨⟩
      exact Json.foundWithin fits found
  have single {criterion : Criterion} {value : Deferred String}
      (single : Criterion.IsSingle value criterion) (within : value.toJson.canonical.depth ≤ room) :
      criterion.written.2.canonical.depth ≤ room := by
    cases single <;> exact within
  cases stands with
  | present locates _ only =>
    exact iff_of_true ⟨Deferred.shownWithin locates atBody, countWithin _⟩
      (unnamed only (by decide))
  | absent locates only =>
    exact iff_of_true ⟨Deferred.shownWithin locates atBody, countWithin none⟩
      (unnamed only (by decide))
  | one targets isSingle gives kinds _ only =>
    refine iff_of_true ⟨targets.shownWithin atBody, comparisonWithin.mpr ?_⟩
      (unnamed only (by decide))
    exact ⟨single isSingle (Deferred.givenWithin fits gives), typed kinds⟩
  | many targets gives kinds _ only =>
    obtain ⟨written, found, lists⟩ := gives
    refine iff_of_true ⟨targets.shownWithin atBody, comparisonWithin.mpr ?_⟩
      (unnamed only (by decide))
    exact ⟨Deferred.listWithin lists (Json.foundWithin fits found), typed kinds⟩
  | satisfies targets _ kinds _ only =>
    refine iff_of_true ⟨targets.shownWithin atBody, comparisonWithin.mpr ?_⟩
      (unnamed only (by decide))
    exact ⟨Nat.zero_le room, typed kinds⟩
  | named targets isSingle _ gives =>
    rw [comparisonWithin]
    constructor
    · rintro ⟨-, -, kind⟩ - - - -
      exact kind _ rfl
    · intro deeper
      obtain ⟨written, found, reads⟩ := gives
      have some := deeper _ (List.mem_map_of_mem (Keyed.memberOfFound found)) _ rfl
      refine ⟨targets.shownWithin atBody, single isSingle ?_, ?_⟩
      · exact Deferred.givenWithin fits ⟨written, found, reads⟩
      · rintro _ ⟨⟩
        exact some

end Demand

namespace Directive

variable {name : String} {body : Json} {modifiers map : Fields} {keys order : List String}
  {room : Nat}

theorem timedDistinct (timeout : Option Json) (plain : isModifier keys name = false)
    (ordered : modifiers.names.Sublist order) (distinct : (order ++ ["timeout"]).Nodup)
    (known : ∀ key ∈ order ++ ["timeout"], key ∈ keys) :
    (Keyed.names ((name, body) :: (modifiers ++ Json.optional "timeout" timeout))).Nodup := by
  have names : (Keyed.names (modifiers ++ Json.optional "timeout" timeout)).Sublist
      (order ++ ["timeout"]) := by
    rw [Keyed.names, List.map_append]
    exact ordered.append (Json.namesOptional _ _)
  refine List.nodup_cons.mpr ⟨fun member => ?_, names.nodup distinct⟩
  simp [isModifier, known name (names.subset member)] at plain

theorem timedWithin {timeout : Option Nat} (distinct : (Keyed.names ((name, body) ::
      (modifiers ++ Json.optional "timeout" (timeout.map Json.nat)))).Nodup) :
    (Json.canonical (.record ((name, body) ::
      (modifiers ++ Json.optional "timeout" (timeout.map Json.nat))))).depth ≤ room ↔
      0 < room ∧ body.canonical.depth ≤ room - 1 ∧
        ∀ field ∈ modifiers, field.2.canonical.depth ≤ room - 1 := by
  have flat : ∀ field ∈ Json.optional "timeout" (timeout.map Json.nat),
      field.2.canonical.depth ≤ room - 1 := by
    refine (Json.forallOptional (p := fun written => written.canonical.depth ≤ room - 1)).mpr ?_
    intro written given
    obtain ⟨n, _, rfl⟩ := Option.map_eq_some_iff.mp given
    exact Nat.zero_le _
  rw [Json.canonicalWithin distinct, List.forall_mem_cons, List.forall_mem_append,
    and_iff_left flat]

end Directive

theorem Keyed.erasedWithin {map : Fields} {room : Nat}
    (within : ∀ field ∈ map, field.2.depth ≤ room) (name : String) :
    ∀ field ∈ map.erase name, field.2.depth ≤ room :=
  fun field member => within field (List.mem_of_mem_filter member)

namespace Action

theorem shownWithin (a : Action) {room : Nat} :
    a.toJson.depth ≤ room ↔ 0 < room ∧ a.deed.written.1.canonical.depth ≤ room - 1 ∧
      ∀ field ∈ a.deed.written.2, field.2.canonical.depth ≤ room - 1 :=
  Directive.timedWithin (Directive.timedDistinct _ (noModifier _ a.deed.directiveKnown)
    a.deed.modifierNames (by decide) (by decide))

theorem spells {map : Fields} {a : Action} (distinct : map.names.Nodup)
    (read : ofFields map = .ok a) {room : Nat} (even : room % 2 = 0)
    (fits : (Json.record map).depth ≤ room) :
    a.toJson.depth ≤ room ↔ (Json.record (Directive.spelledOut map)).depth ≤ room := by
  have stands := (Action.readIff distinct).mp read
  obtain ⟨positive, within⟩ := Json.recordWithin.mp fits
  have unnamed : ∀ name ∈ map.names, ∀ attr, name = "attr_" ++ attr → 0 < room - 1 :=
    fun name member attr named => absurd named ((stands.uncounted member).2 attr)
  obtain ⟨sole, ⟨body, found, does⟩, _⟩ := stands
  have grouped : (∃ name ∈ map.names, name ∈ Directive.groups) ↔
      a.deed.directive ∈ Directive.groups := by
    have plain : ∀ name ∈ Directive.groups, Directive.isModifier modifierKeys name = false := by
      decide +kernel
    constructor
    · rintro ⟨name, member, group⟩
      have same : name = a.deed.directive :=
        (sole name member).mp (Directive.plainIff.mp (plain name group))
      exact same ▸ group
    · exact fun group => ⟨_, List.mem_map_of_mem (Keyed.memberOfFound found), group⟩
  have value (written : Json) : (map.erase a.directive).get? "value" = some written ↔
      ("value", written) ∈ map := by
    have known : a.directive ∈ Keyed.names Deed.readers := a.deed.directiveKnown
    have other : "value" ≠ a.directive := fun same =>
      absurd (same.symm ▸ known) (by decide)
    rw [Keyed.getErase, if_neg other, Keyed.foundIff distinct]
  rw [a.shownWithin, Json.recordWithin, Directive.spelledWithin within,
    does.spells (by omega) (Json.foundWithin within found) (Keyed.erasedWithin within _),
    and_iff_right unnamed, grouped]
  simp only [value]

end Action

namespace Assertion

theorem shownWithin (a : Assertion) {room : Nat} :
    a.toJson.depth ≤ room ↔ 0 < room ∧ a.demand.written.1.canonical.depth ≤ room - 1 ∧
      ∀ field ∈ a.demand.written.2, field.2.canonical.depth ≤ room - 1 :=
  Directive.timedWithin (Directive.timedDistinct _ (noModifier _ a.demand.directiveKnown)
    a.demand.modifierNames (by decide) (by decide))

theorem spells {map : Fields} {a : Assertion} (distinct : map.names.Nodup)
    (read : ofFields map = .ok a) {room : Nat} (fits : (Json.record map).depth ≤ room) :
    a.toJson.depth ≤ room ↔ (Json.record (Directive.spelledOut map)).depth ≤ room := by
  obtain ⟨sole, ⟨body, found, demands⟩, _⟩ := (Assertion.readIff distinct).mp read
  obtain ⟨positive, within⟩ := Json.recordWithin.mp fits
  have named : (∀ name ∈ (map.erase a.directive).names, ∀ attr, name = "attr_" ++ attr →
      0 < room - 1) ↔ ∀ name ∈ map.names, ∀ attr, name = "attr_" ++ attr → 0 < room - 1 := by
    constructor
    · intro deeper name member attr named
      by_cases same : name = a.directive
      · exact absurd named (((sole name member).mpr same).2 attr)
      · exact deeper name (Keyed.keptName member same) attr named
    · exact fun deeper name member => deeper name ((List.filter_sublist.map _).subset member)
  have ungrouped : (∃ name ∈ map.names, name ∈ Directive.groups) →
      ∀ value, ("value", value) ∈ map → value.depth < room - 1 := by
    rintro ⟨name, member, group⟩
    have plain : ∀ name ∈ Directive.groups, Directive.isModifier modifierKeys name = false ∧
        name ∉ Keyed.names Demand.readers := by decide +kernel
    obtain ⟨unmodified, unknown⟩ := plain name group
    have same := (sole name member).mp (Directive.plainIff.mp unmodified)
    exact absurd (same ▸ a.demand.directiveKnown) unknown
  rw [a.shownWithin, Json.recordWithin, Directive.spelledWithin within,
    demands.spells (Json.foundWithin within found) (Keyed.erasedWithin within _), named,
    and_iff_left ungrouped]

end Assertion

theorem Condition.spells {map : Fields} {c : Condition} (distinct : map.names.Nodup)
    (read : ofFields map = .ok c) {room : Nat} (fits : (Json.record map).depth ≤ room) :
    c.toJson.depth ≤ room ↔ (Json.record (Directive.spelledOut map)).depth ≤ room := by
  cases (Condition.readIff distinct).mp read with
  | assertion stands => exact Assertion.spells distinct ((Assertion.readIff distinct).mpr stands) fits
  | @flag written value reads =>
    obtain ⟨positive, within⟩ := Json.recordWithin.mp fits
    have shown := Deferred.shownWithin reads (within _ (List.mem_singleton_self _))
    have plain : Directive.namedAttribute? "bool" = none := by decide +kernel
    have alone : (Keyed.names [("bool", value.toJson)]).Nodup := List.nodup_singleton _
    refine iff_of_true ?_ ?_
    · exact (Json.canonicalWithin alone).mpr ⟨positive, List.forall_mem_singleton.mpr shown⟩
    · refine Json.recordWithin.mpr ⟨positive, (Directive.spelledWithin within).mpr ⟨?_, ?_⟩⟩
      · rintro _ member attr named
        cases List.mem_singleton.mp member
        exact nomatch plain.symm.trans (Directive.namedIff.mpr named)
      · rintro ⟨_, member, group⟩
        cases List.mem_singleton.mp member
        exact absurd group (show "bool" ∉ Directive.groups by decide)

end PageCheck
