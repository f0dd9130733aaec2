import PageCheck.Proofs.ComparisonGrammar
import PageCheck.Proofs.WrittenAssertion

/-!
The grammar of assertions and conditions. An assertion is read from a map just when one key of the
map is a directive and the other keys are those that the directive asks for, each with a value that
fits; and it holds what is written there.
-/
namespace PageCheck

variable {d : Directive}

inductive Criterion.IsSingle (value : Deferred String) : Criterion → Prop where
  | relates (relation : Relation) : IsSingle value (.relates relation (.one value))
  | likes : IsSingle value (.likes value)
  | notLikes : IsSingle value (.notLikes value)

inductive Demand.StandsIn (body : Json) (rest : Fields) : Demand → Prop where
  | present {target count} (locates : Deferred.Reads body target)
      (counted : rest.May "count" Json.IsCount count) (only : rest.Only ["timeout", "count"]) :
    StandsIn body rest (.present ⟨target, count⟩)
  | absent {target} (locates : Deferred.Reads body target) (only : rest.Only ["timeout"]) :
    StandsIn body rest (.absent ⟨target, none⟩)
  | one {target criterion value kind count} (targets : Target.Reads body target)
      (single : Criterion.IsSingle value criterion)
      (gives : rest.Gives "value" Deferred.Reads value)
      (typed : rest.May "type" ValueKind.Reads kind) (counted : rest.May "count" Json.IsCount count)
      (only : rest.Only ["timeout", "count", "type", "value"]) :
    StandsIn body rest (.compare ⟨target, criterion, kind, count⟩)
  | many {target relation values kind count} (targets : Target.Reads body target)
      (gives : rest.Gives "values" Deferred.Lists values)
      (typed : rest.May "type" ValueKind.Reads kind) (counted : rest.May "count" Json.IsCount count)
      (only : rest.Only ["timeout", "count", "type", "values"]) :
    StandsIn body rest (.compare ⟨target, .relates relation (.many values), kind, count⟩)
  | named {target criterion attr value count} (targets : Target.Reads body target)
      (single : Criterion.IsSingle value criterion) (nonempty : attr ≠ "")
      (gives : rest.Gives ("attr_" ++ attr) Deferred.Reads value)
      (counted : rest.May "count" Json.IsCount count)
      (only : rest.Only ["timeout", "count", "attr_" ++ attr]) :
    StandsIn body rest (.compare ⟨target, criterion, some (.attr attr), count⟩)
  | satisfies {target predicate kind count} (targets : Target.Reads body target)
      (gives : rest.Gives "predicate" Json.IsText predicate)
      (typed : rest.May "type" ValueKind.Reads kind) (counted : rest.May "count" Json.IsCount count)
      (only : rest.Only ["timeout", "count", "type", "predicate"]) :
    StandsIn body rest (.compare ⟨target, .satisfies predicate, kind, count⟩)

namespace Demand

abbrev Reader := Directive → Option UInt64 → Except Fault Demand

inductive IsReader : String → Reader → Prop where
  | present : IsReader "exists" readPresent
  | absent : IsReader "notExists" readAbsent
  | relation (relation : Relation) : IsReader relation.directive (readRelation relation)
  | likes : IsReader "likes" (readLikes .likes)
  | notLikes : IsReader "notLikes" (readLikes .notLikes)
  | satisfies : IsReader "satisfies" readSatisfies

theorem readerIff {name : String} {read : Reader} :
    readers.get? name = some read ↔ IsReader name read := by
  constructor
  · intro found
    have member := Keyed.memberOfFound found
    simp only [readers, List.mem_cons, List.not_mem_nil, or_false, Prod.mk.injEq] at member
    obtain ⟨rfl, rfl⟩ | ⟨rfl, rfl⟩ | ⟨rfl, rfl⟩ | ⟨rfl, rfl⟩ | ⟨rfl, rfl⟩ | ⟨rfl, rfl⟩ |
      ⟨rfl, rfl⟩ | ⟨rfl, rfl⟩ | ⟨rfl, rfl⟩ | ⟨rfl, rfl⟩ | ⟨rfl, rfl⟩ := member
    · exact .present
    · exact .absent
    · exact .relation .equals
    · exact .relation .notEquals
    · exact .likes
    · exact .notLikes
    · exact .relation .checked
    · exact .relation .unchecked
    · exact .relation .selected
    · exact .relation .unselected
    · exact .satisfies
  · intro known
    cases known with
    | relation relation => cases relation <;> rfl
    | _ => rfl

section Sound

variable {count : Option UInt64} {demand : Demand} (distinct : d.modifiers.names.Nodup)
  (counted : d.modifiers.May "count" Json.IsCount count)

include counted

theorem presentSound (read : readPresent d count = .ok demand) :
    demand.directive = "exists" ∧ demand.StandsIn d.body d.modifiers := by
  obtain ⟨target, located, read⟩ := bindOk.mp read
  obtain ⟨_, finished, rfl⟩ := mapOk.mp read
  exact ⟨rfl, .present ((Directive.valueIff fun _ _ => Shape.deferredIff).mp located) counted
    (Directive.finishIff.mp finished)⟩

theorem absentSound (read : readAbsent d count = .ok demand) :
    demand.directive = "notExists" ∧ demand.StandsIn d.body d.modifiers := by
  obtain ⟨target, located, read⟩ := bindOk.mp read
  split at read
  · cases read
  · next uncounted =>
    obtain ⟨_, finished, rfl⟩ := mapOk.mp read
    have only := Directive.finishIff.mp finished
    cases counted with
    | given gives => exact absurd rfl uncounted
    | missing absent =>
      exact ⟨rfl, .absent ((Directive.valueIff fun _ _ => Shape.deferredIff).mp located)
        (only.without absent (by decide))⟩

theorem satisfiesSound (read : readSatisfies d count = .ok demand) :
    demand.directive = "satisfies" ∧ demand.StandsIn d.body d.modifiers := by
  obtain ⟨target, targets, read⟩ := bindOk.mp read
  obtain ⟨predicate, gives, read⟩ := bindOk.mp read
  obtain ⟨kind, typed, read⟩ := bindOk.mp read
  obtain ⟨_, finished, rfl⟩ := mapOk.mp read
  exact ⟨rfl, .satisfies (Target.readsIff.mp targets)
    ((Directive.neededIff fun _ _ => Shape.stringIff).mp gives)
    (ValueKind.ofDirectiveIff.mp typed) counted
    ((Directive.finishIff.mp finished).mono (by decide))⟩

include distinct

theorem shortSound {ofOne : Deferred String → Criterion}
    (single : ∀ value, Criterion.IsSingle value (ofOne value)) {key attr : String}
    {value : Deferred String} (short : d.shorthand? = .ok (some (key, attr, value)))
    {target : Target} (targets : Target.Reads d.body target)
    (only : d.modifiers.Only ["timeout", "count", key]) :
    StandsIn d.body d.modifiers (.compare ⟨target, ofOne value, some (.attr attr), count⟩) := by
  obtain ⟨⟨rfl, gives, -⟩, nonempty, -⟩ := (Directive.shorthandIff distinct).mp short
  exact .named targets (single value) nonempty gives counted only

theorem relationSound {relation : Relation} (read : readRelation relation d count = .ok demand) :
    demand.directive = relation.directive ∧ demand.StandsIn d.body d.modifiers := by
  obtain ⟨comparand, found, read⟩ := bindOk.mp read
  obtain ⟨target, targets, only, rfl⟩ := Comparand.completeIff.mp read
  cases Comparand.readIff.mp found with
  | short short =>
    exact ⟨rfl, shortSound distinct counted (fun _ => .relates relation) short targets only⟩
  | plain _ plain typed =>
    obtain ⟨expected, expects, rfl⟩ := mapsOk plain
    have either : d.modifiers.Only ["timeout", "count", "type", "value", "values"] := only
    refine ⟨rfl, ?_⟩
    cases Expected.ofDirectiveIff.mp expects with
    | one gives single =>
      exact .one targets (.relates relation) gives typed counted (either.without single (by decide))
    | many gives single =>
      exact .many targets gives typed counted (either.without single (by decide))

theorem likesSound {ofOne : Deferred String → Criterion}
    (single : ∀ value, Criterion.IsSingle value (ofOne value))
    (read : readLikes ofOne d count = .ok demand) :
    (∃ value, demand.directive = (ofOne value).directive) ∧
      demand.StandsIn d.body d.modifiers := by
  unfold readLikes at read
  split at read
  · cases read
  · obtain ⟨comparand, found, read⟩ := bindOk.mp read
    obtain ⟨target, targets, only, rfl⟩ := Comparand.completeIff.mp read
    cases Comparand.readIff.mp found with
    | short short => exact ⟨⟨_, rfl⟩, shortSound distinct counted single short targets only⟩
    | plain _ plain typed =>
      obtain ⟨value, gives, rfl⟩ := mapsOk plain
      exact ⟨⟨value, rfl⟩, .one targets (single value)
        ((Directive.neededIff fun _ _ => Shape.deferredIff).mp gives) typed counted only⟩

theorem readersSound {name : String} {read : Reader} (known : IsReader name read)
    (ran : read d count = .ok demand) :
    demand.directive = name ∧ demand.StandsIn d.body d.modifiers := by
  cases known with
  | present => exact presentSound counted ran
  | absent => exact absentSound counted ran
  | relation relation => exact relationSound distinct counted ran
  | likes =>
    obtain ⟨⟨_, same⟩, stands⟩ := likesSound distinct counted (fun _ => .likes) ran
    exact ⟨same, stands⟩
  | notLikes =>
    obtain ⟨⟨_, same⟩, stands⟩ := likesSound distinct counted (fun _ => .notLikes) ran
    exact ⟨same, stands⟩
  | satisfies => exact satisfiesSound counted ran

end Sound

theorem unnamedModifiers : ∀ key ∈ Assertion.modifierKeys, ∀ attr, key ≠ "attr_" ++ attr := by
  have unnamed : ∀ key ∈ Assertion.modifierKeys, Directive.namedAttribute? key = none := by
    decide +kernel
  rintro key member attr rfl
  exact nomatch (unnamed _ member).symm.trans (Directive.namedIff.mpr rfl)

section Complete

variable {count : Option UInt64} {ofOne : Deferred String → Criterion}
  {plain : Except Fault Criterion} {keys : List String} {target : Target}

theorem plainRead {criterion : Criterion} {kind : Option ValueKind} {others : List String}
    (targets : Target.Reads d.body target) (read : plain = .ok criterion)
    (typed : d.modifiers.May "type" ValueKind.Reads kind) (only : d.modifiers.Only others)
    (known : others ⊆ Assertion.modifierKeys)
    (among : others ⊆ "timeout" :: "count" :: "type" :: keys) :
    (do
      let comparand ← Comparand.read d ofOne keys plain
      comparand.complete d count) = .ok (.compare ⟨target, criterion, kind, count⟩) := by
  have unnamed : d.shorthand? = .ok none :=
    Directive.unnamedIff.mpr fun name member => unnamedModifiers name (known (only name member))
  refine bindOk.mpr ⟨_, Comparand.readIff.mpr (.plain unnamed read typed), ?_⟩
  exact Comparand.completeIff.mpr ⟨target, targets, only.mono among, rfl⟩

theorem absentBesideShort {attr key : String}
    (only : d.modifiers.Only ["timeout", "count", "attr_" ++ attr])
    (other : key ∈ Assertion.modifierKeys ∧ key ≠ "timeout" ∧ key ≠ "count") :
    d.modifiers.get? key = none := by
  refine only.absent fun within => ?_
  rw [List.mem_cons, List.mem_cons, List.mem_singleton] at within
  obtain ⟨known, notTimeout, notCount⟩ := other
  exact unnamedModifiers key known attr ((within.resolve_left notTimeout).resolve_left notCount)

theorem shortRead (distinct : d.modifiers.names.Nodup) {attr : String} {value : Deferred String}
    (targets : Target.Reads d.body target) (nonempty : attr ≠ "")
    (gives : d.modifiers.Gives ("attr_" ++ attr) Deferred.Reads value)
    (only : d.modifiers.Only ["timeout", "count", "attr_" ++ attr]) :
    (do
      let comparand ← Comparand.read d ofOne keys plain
      comparand.complete d count) =
        .ok (.compare ⟨target, ofOne value, some (.attr attr), count⟩) := by
  have sole : ∀ name ∈ d.modifiers.names, ∀ other, name = "attr_" ++ other →
      name = "attr_" ++ attr := by
    intro name member other named
    have known := only name member
    rw [List.mem_cons, List.mem_cons, List.mem_singleton] at known
    obtain timeout | count | same := known
    · exact (unnamedModifiers name (timeout ▸ by decide) other named).elim
    · exact (unnamedModifiers name (count ▸ by decide) other named).elim
    · exact same
  have alone : ∀ other ∈ Directive.attributeStandsFor, d.modifiers.get? other = none := by
    have others : ∀ other ∈ Directive.attributeStandsFor,
        other ∈ Assertion.modifierKeys ∧ other ≠ "timeout" ∧ other ≠ "count" := by decide
    exact fun other member => absentBesideShort only (others other member)
  have short := (Directive.shorthandIff distinct).mpr ⟨⟨rfl, gives, sole⟩, nonempty, alone⟩
  refine bindOk.mpr ⟨_, Comparand.readIff.mpr (.short short), ?_⟩
  exact Comparand.completeIff.mpr ⟨target, targets, only, rfl⟩

theorem likesSingle (single : d.modifiers.get? "values" = none) :
    readLikes ofOne d count = (do
      let comparand ← Comparand.read d ofOne ["value"]
        (ofOne <$> d.modifier "value" Shape.deferred)
      comparand.complete d count) := by
  have alone : d.modifiers.has "values" = false := by
    rw [Keyed.hasFound, single]
    rfl
  unfold readLikes
  rw [alone]
  rfl

theorem readersComplete {demand : Demand} (distinct : d.modifiers.names.Nodup)
    (stands : demand.StandsIn d.body d.modifiers) :
    ∃ read count, IsReader demand.directive read ∧
      d.modifiers.May "count" Json.IsCount count ∧ read d count = .ok demand := by
  have located {target : Deferred Locator} (locates : Deferred.Reads d.body target) :
      d.value Shape.deferred = .ok target :=
    (Directive.valueIff fun _ _ => Shape.deferredIff).mpr locates
  cases stands with
  | present locates counted only =>
    refine ⟨readPresent, _, .present, counted, bindOk.mpr ⟨_, located locates, ?_⟩⟩
    exact mapOk.mpr ⟨(), Directive.finishIff.mpr only, rfl⟩
  | absent locates only =>
    refine ⟨readAbsent, none, .absent, .missing (only.absent (by decide)),
      bindOk.mpr ⟨_, located locates, ?_⟩⟩
    exact mapOk.mpr ⟨(), Directive.finishIff.mpr (only.mono (by decide)), rfl⟩
  | one targets single gives typed counted only =>
    have alone : d.modifiers.get? "values" = none := only.absent (by decide)
    have value := (Directive.neededIff fun _ _ => Shape.deferredIff).mpr gives
    cases single with
    | relates relation =>
      have expects := Expected.ofDirectiveIff.mpr (.one gives alone)
      exact ⟨_, _, .relation relation, counted, plainRead targets (mapsIff.mpr ⟨_, expects, rfl⟩)
        typed only (by decide) (by decide)⟩
    | likes =>
      exact ⟨_, _, .likes, counted, (likesSingle alone).trans
        (plainRead targets (mapsIff.mpr ⟨_, value, rfl⟩) typed only (by decide) (by decide))⟩
    | notLikes =>
      exact ⟨_, _, .notLikes, counted, (likesSingle alone).trans
        (plainRead targets (mapsIff.mpr ⟨_, value, rfl⟩) typed only (by decide) (by decide))⟩
  | @many _ relation _ _ _ targets gives typed counted only =>
    have expects := Expected.ofDirectiveIff.mpr (.many gives (only.absent (by decide)))
    exact ⟨_, _, .relation relation, counted, plainRead targets (mapsIff.mpr ⟨_, expects, rfl⟩)
      typed only (by decide) (by decide)⟩
  | named targets single nonempty gives counted only =>
    have alone : d.modifiers.get? "values" = none := absentBesideShort only (by decide)
    cases single with
    | relates relation =>
      exact ⟨_, _, .relation relation, counted, shortRead distinct targets nonempty gives only⟩
    | likes =>
      exact ⟨_, _, .likes, counted, (likesSingle alone).trans
        (shortRead distinct targets nonempty gives only)⟩
    | notLikes =>
      exact ⟨_, _, .notLikes, counted, (likesSingle alone).trans
        (shortRead distinct targets nonempty gives only)⟩
  | satisfies targets gives typed counted only =>
    refine ⟨readSatisfies, _, .satisfies, counted, ?_⟩
    refine bindOk.mpr ⟨_, Target.readsIff.mpr targets, ?_⟩
    refine bindOk.mpr ⟨_, (Directive.neededIff fun _ _ => Shape.stringIff).mpr gives, ?_⟩
    refine bindOk.mpr ⟨_, ValueKind.ofDirectiveIff.mpr typed, ?_⟩
    exact mapOk.mpr ⟨(), Directive.finishIff.mpr (only.mono (by decide)), rfl⟩

end Complete

end Demand

structure Assertion.StandsIn (fields : Fields) (a : Assertion) : Prop where
  sole : ∀ name ∈ fields.names, Directive.IsPlain modifierKeys name ↔ name = a.directive
  demands : ∃ body, fields.get? a.directive = some body ∧
    a.demand.StandsIn body (fields.erase a.directive)
  timed : (fields.erase a.directive).May "timeout" Json.IsNatural a.timeout

inductive Condition.StandsIn : Fields → Condition → Prop where
  | flag {written value} (reads : Deferred.Reads written value) :
    StandsIn [("bool", written)] (.flag value)
  | assertion {fields a} (stands : Assertion.StandsIn fields a) : StandsIn fields (.assertion a)

namespace Assertion

variable {fields : Fields}

theorem erasedDistinct (distinct : fields.names.Nodup) (name : String) :
    (fields.erase name).names.Nodup :=
  distinct.sublist (List.filter_sublist.map Prod.fst)

theorem readIff (distinct : fields.names.Nodup) {a : Assertion} :
    ofFields fields = .ok a ↔ a.StandsIn fields := by
  constructor
  · intro read
    obtain ⟨d, split, read⟩ := bindOk.mp read
    obtain ⟨reader, chosen, read⟩ := bindOk.mp read
    obtain ⟨timeout, timed, read⟩ := bindOk.mp read
    obtain ⟨count, counted, read⟩ := bindOk.mp read
    obtain ⟨demand, demanded, rfl⟩ := mapOk.mp read
    have stands := (Directive.splitIff distinct).mp split
    have known := Demand.readerIff.mp (Directive.chooseIff.mp chosen)
    have still : d.modifiers.names.Nodup := stands.rest ▸ erasedDistinct distinct d.name
    obtain ⟨named, demands⟩ := Demand.readersSound still
      ((Directive.optionalIff fun _ _ => Shape.elementsIff).mp counted) known demanded
    have timed := Directive.timeoutIff.mp timed
    have same : directive { demand, timeout } = d.name := named
    rw [stands.rest, ← same] at demands timed
    refine ⟨?_, ⟨d.body, ?_, demands⟩, timed⟩
    · rw [same]
      exact stands.sole
    · rw [same]
      exact stands.body
  · rintro ⟨sole, ⟨body, found, demands⟩, timed⟩
    let d : Directive := ⟨a.directive, body, fields.erase a.directive⟩
    have stands : d.StandsIn modifierKeys fields := ⟨found, rfl, sole⟩
    obtain ⟨read, count, known, counted, demanded⟩ :=
      Demand.readersComplete (d := d) (erasedDistinct distinct _) demands
    refine bindOk.mpr ⟨d, (Directive.splitIff distinct).mpr stands, ?_⟩
    refine bindOk.mpr ⟨read, Directive.chooseIff.mpr (Demand.readerIff.mpr known), ?_⟩
    refine bindOk.mpr ⟨a.timeout, Directive.timeoutIff.mpr timed, ?_⟩
    have elements := (Directive.optionalIff fun _ _ => Shape.elementsIff).mpr counted
    exact bindOk.mpr ⟨count, elements, bindOk.mpr ⟨a.demand, demanded, rfl⟩⟩

end Assertion

namespace Condition

variable {fields : Fields}

theorem flagAlone (distinct : fields.names.Nodup) {written : Json}
    (found : fields.get? "bool" = some written) (rest : fields.erase "bool" = []) :
    fields = [("bool", written)] := by
  have all : ∀ field ∈ fields, field.1 = "bool" := by
    intro field member
    have dropped := List.filter_eq_nil_iff.mp rest field member
    simpa using dropped
  have kept : fields.filter (fun field => field.1 = "bool") = fields :=
    List.filter_eq_self.mpr fun field member => by simpa using all field member
  rw [← kept]
  refine (Keyed.filterAlone distinct (fun name => name = "bool") "bool" written).mpr
    ⟨found, rfl, fun other _ same => ?_⟩
  simpa using same

theorem noFlagBeside {a : Assertion} (stands : a.StandsIn fields) :
    fields.get? "bool" = none := by
  refine Keyed.absentIff.mpr fun member => ?_
  have plain : Directive.isModifier Assertion.modifierKeys "bool" = false := by decide +kernel
  have same : "bool" = a.directive :=
    (stands.sole "bool" member).mp (Directive.plainIff.mp plain)
  have directives : "bool" ∉ Keyed.names Demand.readers := by decide
  exact directives (same ▸ a.demand.directiveKnown)

theorem readIff (distinct : fields.names.Nodup) {c : Condition} :
    ofFields fields = .ok c ↔ c.StandsIn fields := by
  constructor
  · intro read
    unfold ofFields at read
    split at read
    · next found =>
      split at read
      · cases read
      · next rest =>
        obtain ⟨value, reads, rfl⟩ := mapsOk read
        rw [flagAlone distinct found rest]
        exact .flag (Shape.deferredIff.mp (mapErrorOk reads))
    · obtain ⟨a, asserted, rfl⟩ := mapsOk read
      exact .assertion ((Assertion.readIff distinct).mp asserted)
  · rintro (reads | stands)
    · show ((Shape.deferred _).mapError (Fault.misfit "bool")).map flag = _
      exact mapsIff.mpr ⟨_, mapErrorIff.mpr (Shape.deferredIff.mpr reads), rfl⟩
    · unfold ofFields
      rw [noFlagBeside stands]
      exact mapsIff.mpr ⟨_, (Assertion.readIff distinct).mpr stands, rfl⟩

theorem readByGrammar (fields : Fields) (distinct : fields.names.Nodup) :
    (∀ a, Assertion.ofFields fields = .ok a ↔ a.StandsIn fields) ∧
    (∀ c, ofFields fields = .ok c ↔ c.StandsIn fields) ∧
    (∀ failure, (Assertion.ofFields fields).mapError Failure.scenario = .error failure →
      failure.isConfiguration = true) ∧
    ∀ failure, (ofFields fields).mapError Failure.scenario = .error failure →
      failure.isConfiguration = true := by
  have told {α : Type} (outcome : Except Fault α) (failure : Failure)
      (failed : outcome.mapError Failure.scenario = .error failure) :
      failure.isConfiguration = true := by
    cases outcome <;> cases failed
    rfl
  exact ⟨fun a => Assertion.readIff distinct, fun c => readIff distinct, told _, told _⟩

def linkHome : Fields :=
  [("attr_href", .text "/"), ("count", .nat 2), ("equals", .record [("css", .text "a")])]

def typedLinkHome : Fields := linkHome ++ [("type", .text "radio")]

def linksHome : Assertion where
  demand := .compare {
    target := .element (.value { strategy := .css, selector := "a" })
    criterion := .relates .equals (.one (.value "/"))
    kind := some (.attr "href")
    count := some 2 }
  timeout := none

theorem readByGrammarHome :
    linkHome.names.Nodup ∧ linksHome.StandsIn linkHome ∧
    typedLinkHome.names.Nodup ∧
    ¬ linksHome.StandsIn typedLinkHome := by
  have distinct : linkHome.names.Nodup := by decide
  have distinct' : typedLinkHome.names.Nodup := by decide
  have read : Assertion.ofFields linkHome = .ok linksHome := rfl
  have refused : Assertion.ofFields typedLinkHome =
    .error (.attributeConflict "attr_href" "type") := rfl
  refine ⟨distinct, ((readByGrammar linkHome distinct).1 linksHome).mp read, distinct', ?_⟩
  intro stands
  have accepted := ((readByGrammar _ distinct').1 linksHome).mpr stands
  exact nomatch refused.symm.trans accepted

end Condition

end PageCheck
