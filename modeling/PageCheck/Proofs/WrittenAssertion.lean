import PageCheck.Assertion.Reader
import PageCheck.Guard.Reader
import PageCheck.Proofs.WrittenAction

/-!
Assertions and conditions are read back from what is written for them, unless the absence of a
counted element is asked for: a count is written for it but never read.
-/
namespace PageCheck

def Demand.isCountedAbsence : Demand → Bool
  | .absent presence => presence.count.isSome
  | .present _ | .compare _ => false

def Demand.count : Demand → Option UInt64
  | .present presence | .absent presence => presence.count
  | .compare comparison => comparison.count

def Assertion.isWritable (a : Assertion) : Bool :=
  fitsTimeout a.timeout && !a.demand.isCountedAbsence

def Condition.isWritable : Condition → Bool
  | .flag _ => true
  | .assertion a => a.isWritable

theorem Target.rereads (target : Target) : Target.ofJson target.toJson.canonical = .ok target := by
  cases target with
  | element locator =>
    obtain ⟨fields, isRecord⟩ := locator.locatorRecord
    have read := Shape.deferredRereads locator
    show Target.ofJson locator.toJson.canonical = _
    rw [isRecord] at read ⊢
    show ((Shape.deferred (.record fields)).mapError
      (Fault.misfit "locator")).map Target.element = _
    rw [read]
    rfl
  | html => rfl
  | url => rfl

theorem ValueKind.rereads (kind : ValueKind) :
    ValueKind.ofJson kind.toJson.canonical = .ok kind := by
  cases kind <;> rfl

namespace Demand

variable {d : Directive} {timeout : Option Json}

abbrev WrittenIn (demand : Demand) (timeout : Option Json) (d : Directive) : Prop :=
  d.Writes demand.directive demand.written.1
    (demand.written.2 ++ Json.optional "timeout" timeout)

theorem countNames (count : Option UInt64) :
    (Keyed.names (writtenCount count)).Sublist ["count"] := Json.namesOptional _ _

theorem comparisonNames (c : Comparison) : (Keyed.names (Demand.compare c).written.2).Sublist
    [c.criterion.written.1, "type", "count"] := by
  show (Keyed.names ((c.criterion.written :: Json.optional "type" _) ++ _)).Sublist _
  rw [Keyed.names, List.map_append]
  exact ((Json.namesOptional "type" _).cons_cons _).append (countNames c.count)

theorem modifierNames (demand : Demand) :
    (Keyed.names demand.written.2).Sublist ["value", "values", "predicate", "type", "count"] := by
  cases demand with
  | present presence => exact (countNames presence.count).trans (by decide)
  | absent presence => exact (countNames presence.count).trans (by decide)
  | compare comparison =>
    have first : [comparison.criterion.written.1].Sublist ["value", "values", "predicate"] := by
      obtain ⟨target, criterion, kind, count⟩ := comparison
      rcases criterion with ⟨_, _ | _⟩ | _ | _ | _ <;> simp [Criterion.written, Expected.written]
    exact (comparisonNames comparison).trans (first.append_right ["type", "count"])

theorem countRereads (demand : Demand) (h : demand.WrittenIn timeout d) :
    d.modifier? "count" Shape.elements = .ok demand.count := by
  have found : Keyed.get? (demand.written.2 ++ Json.optional "timeout" timeout) "count" =
      demand.count.map fun n => Json.nat n.toNat := by
    rcases demand with _ | _ | ⟨target, ⟨_, _ | _⟩ | _ | _ | _, kind, count⟩ <;>
      simp [written, writtenCount, Keyed.getCons, Criterion.written, Expected.written,
        Demand.count]
  cases counted : demand.count with
  | none => exact h.missing _ (by rw [found, counted]; rfl)
  | some count =>
    have there : Keyed.get? (demand.written.2 ++ Json.optional "timeout" timeout) "count" =
        some (Json.nat count.toNat) := by rw [found, counted]; rfl
    exact h.given there (Shape.elementsReread count)

theorem noShorthand (demand : Demand) (h : demand.WrittenIn timeout d) :
    d.shorthand? = .ok none := by
  have unnamed : ∀ key ∈ ["value", "values", "predicate", "type", "count", "timeout"],
      Directive.namedAttribute? key = none := by decide +kernel
  have ordered : (Keyed.names (demand.written.2 ++ Json.optional "timeout" timeout)).Sublist
      ["value", "values", "predicate", "type", "count", "timeout"] := by
    rw [Keyed.names, List.map_append]
    exact demand.modifierNames.append (Json.namesOptional _ _)
  have none : d.modifiers.filterMap (fun field =>
      (Directive.namedAttribute? field.1).map ((field, ·))) = [] := by
    rw [List.filterMap_eq_nil_iff]
    intro field member
    rw [unnamed field.1 (ordered.subset (h.only field member))]
    rfl
  unfold Directive.shorthand?
  rw [none]

section Compare

variable {c : Comparison}

theorem targetRereads (h : (Demand.compare c).WrittenIn timeout d) :
    Target.ofJson d.body = .ok c.target := by
  rw [h.body]
  exact c.target.rereads

theorem kindRereads (h : (Demand.compare c).WrittenIn timeout d) :
    ValueKind.ofDirective d = .ok c.kind := by
  have found : Keyed.get? ((Demand.compare c).written.2 ++ Json.optional "timeout" timeout) "type" =
      c.kind.map ValueKind.toJson := by
    obtain ⟨target, ⟨_, _ | _⟩ | _ | _ | _, kind, count⟩ := c <;>
      simp [written, writtenCount, Keyed.getCons, Criterion.written, Expected.written]
  unfold ValueKind.ofDirective
  rw [h.found, found]
  cases c.kind with
  | none => rfl
  | some kind =>
    show (ValueKind.ofJson kind.toJson.canonical).map some = _
    rw [kind.rereads]
    rfl

theorem completes (h : (Demand.compare c).WrittenIn timeout d) {keys : List String}
    (typed : "type" ∈ keys) (named : c.criterion.written.1 ∈ keys) :
    Comparand.complete d c.count { expected := c.criterion, kind := c.kind, keys } =
      .ok (.compare c) := by
  have finished : d.finish ("timeout" :: "count" :: keys) = .ok () := by
    refine h.finishesInTime List.mem_cons_self fun key member => ?_
    have known := (comparisonNames c).subset member
    simp only [List.mem_cons, List.not_mem_nil, or_false] at known
    rcases known with rfl | rfl | rfl <;> simp [typed, named]
  unfold Comparand.complete
  rw [targetRereads h, finished]
  rfl

theorem comparandRereads (h : (Demand.compare c).WrittenIn timeout d) {keys : List String}
    (ofOne : Deferred String → Criterion) {plain : Except Fault Criterion}
    (expected : plain = .ok c.criterion) :
    Comparand.read d ofOne keys plain =
      .ok { expected := c.criterion, kind := c.kind, keys := "type" :: keys } := by
  unfold Comparand.read
  rw [noShorthand (.compare c) h, expected, kindRereads h]
  rfl

theorem relationRereads {relation : Relation} {expected : Expected}
    (same : c.criterion = .relates relation expected)
    (h : (Demand.compare c).WrittenIn timeout d) :
    readRelation relation d c.count = .ok (.compare c) := by
  have read : Expected.ofDirective d = .ok expected := by
    cases expected with
    | one value =>
      refine h.expectsOne ?_ ?_ <;>
        simp [written, same, Criterion.written, Expected.written, writtenCount, Keyed.getCons]
    | many values =>
      refine h.expectsMany ?_ ?_ <;>
        simp [written, same, Criterion.written, Expected.written, writtenCount, Keyed.getCons]
  have plain : (Criterion.relates relation <$> Expected.ofDirective d) = .ok c.criterion := by
    rw [read, same]
    rfl
  have named : c.criterion.written.1 ∈ ["type", "value", "values"] := by
    rw [same]
    cases expected <;> simp [Criterion.written, Expected.written]
  unfold readRelation
  rw [comparandRereads h _ plain]
  exact completes h (by decide) named

theorem likesRereads (criterion : Deferred String → Criterion) {expected : Deferred String}
    (same : c.criterion = criterion expected)
    (writes : (criterion expected).written = ("value", expected.toJson))
    (h : (Demand.compare c).WrittenIn timeout d) :
    readLikes criterion d c.count = .ok (.compare c) := by
  have read : d.modifier "value" Shape.deferred = .ok expected :=
    h.needed (by simp [written, same, writes, Keyed.getCons]) (Shape.deferredRereads expected)
  have single : d.modifiers.has "values" = false := by
    rw [Keyed.hasFound, h.found]
    simp [written, same, writes, writtenCount, Keyed.getCons]
  have plain : (criterion <$> d.modifier "value" Shape.deferred) = .ok c.criterion := by
    rw [read, same]
    rfl
  unfold readLikes
  rw [single, comparandRereads h _ plain]
  exact completes h (by decide) (by simp [same, writes])

theorem satisfiesRereads {predicate : String} (same : c.criterion = .satisfies predicate)
    (h : (Demand.compare c).WrittenIn timeout d) :
    readSatisfies d c.count = .ok (.compare c) := by
  have there : Keyed.get? ((Demand.compare c).written.2 ++ Json.optional "timeout" timeout)
      "predicate" = some (.text predicate) := by
    simp [written, same, Criterion.written, Keyed.getCons]
  have read : d.modifier "predicate" Shape.string = .ok predicate := h.needed there rfl
  have finished : d.finish ["timeout", "count", "predicate", "type"] = .ok () := by
    refine h.finishesInTime (by decide) fun key member => ?_
    have known := (comparisonNames c).subset member
    simp only [same, Criterion.written, List.mem_cons, List.not_mem_nil, or_false] at known
    rcases known with rfl | rfl | rfl <;> decide
  have target := targetRereads h
  have kind := kindRereads h
  obtain ⟨_, _, _, _⟩ := c
  cases same
  unfold readSatisfies
  rw [target, read, kind, finished]
  rfl

end Compare

theorem rereads (demand : Demand) (uncounted : demand.isCountedAbsence = false)
    (h : demand.WrittenIn timeout d) :
    ∃ read, d.choose .assertion readers = .ok read ∧ read d demand.count = .ok demand := by
  have chosen {read : Directive → Option UInt64 → Except Fault Demand}
      (found : readers.get? demand.directive = some read) :
      d.choose .assertion readers = .ok read := by
    unfold Directive.choose
    rw [h.name, found]
  cases demand with
  | present presence =>
    have finished : d.finish ["timeout", "count"] = .ok () :=
      h.finishesInTime (by decide) fun key member => List.mem_cons_of_mem _
        ((countNames presence.count).subset member)
    refine ⟨readPresent, chosen rfl, ?_⟩
    unfold readPresent
    rw [h.reads (Shape.deferredRereads presence.target), finished]
    rfl
  | absent presence =>
    have finished : d.finish ["timeout", "count"] = .ok () :=
      h.finishesInTime (by decide) fun key member => List.mem_cons_of_mem _
        ((countNames presence.count).subset member)
    refine ⟨readAbsent, chosen rfl, ?_⟩
    obtain ⟨target, count⟩ := presence
    have none : count = none := by simpa [isCountedAbsence] using uncounted
    subst none
    unfold readAbsent
    rw [h.reads (Shape.deferredRereads target), finished]
    rfl
  | compare comparison =>
    obtain ⟨target, criterion, kind, count⟩ := comparison
    cases criterion with
    | relates relation expected =>
      refine ⟨readRelation relation, chosen ?_, relationRereads rfl h⟩
      cases relation <;> rfl
    | likes expected => exact ⟨_, chosen rfl, likesRereads .likes rfl rfl h⟩
    | notLikes expected => exact ⟨_, chosen rfl, likesRereads .notLikes rfl rfl h⟩
    | satisfies predicate => exact ⟨_, chosen rfl, satisfiesRereads rfl h⟩

theorem directiveKnown (demand : Demand) : demand.directive ∈ Keyed.names readers := by
  rcases demand with _ | _ | ⟨target, ⟨relation, _⟩ | _ | _ | _, kind, count⟩
  case compare.relates => cases relation <;> simp [directive, Criterion.directive,
    Relation.directive, readers, Keyed.names]
  all_goals simp [directive, Criterion.directive, readers, Keyed.names]

end Demand

namespace Assertion

def written (a : Assertion) : Fields :=
  (a.directive, a.demand.written.1) ::
    (a.demand.written.2 ++ Json.optional "timeout" (a.timeout.map Json.nat))

theorem noModifier : ∀ name ∈ Keyed.names Demand.readers,
    Directive.isModifier modifierKeys name = false := by
  decide +kernel

theorem rereads (a : Assertion) (writable : a.isWritable = true) :
    ofFields (Keyed.sorted (Json.canonicalFields a.written)) = .ok a := by
  simp only [isWritable, Bool.and_eq_true, Bool.not_eq_true'] at writable
  obtain ⟨fits, uncounted⟩ := writable
  obtain ⟨d, split, h, timeout⟩ := Directive.splitTimed .assertion a.demand.written.1
    (noModifier a.directive a.demand.directiveKnown) a.demand.modifierNames (by decide) (by decide)
    (fitsTimeoutIff.mp fits)
  obtain ⟨read, chosen, demand⟩ := a.demand.rereads uncounted h
  exact bindOk.mpr ⟨d, split, bindOk.mpr ⟨read, chosen, bindOk.mpr ⟨a.timeout, timeout,
    bindOk.mpr ⟨a.demand.count, a.demand.countRereads h, bindOk.mpr ⟨a.demand, demand, rfl⟩⟩⟩⟩⟩

end Assertion

namespace Condition

def written : Condition → Fields
  | .flag value => [("bool", value.toJson)]
  | .assertion a => a.written

theorem toJsonWritten (c : Condition) : c.toJson = Json.canonical (.record c.written) := by
  cases c <;> rfl

theorem noFlag (a : Assertion) :
    Keyed.get? (Keyed.sorted (Json.canonicalFields a.written)) "bool" = none := by
  refine Keyed.foundNone fun member => ?_
  obtain ⟨field, inSorted, isFlag⟩ := List.mem_map.mp member
  have inFields := Keyed.memSorted inSorted
  rw [Json.canonicalFieldsMap] at inFields
  obtain ⟨source, inWritten, rfl⟩ := List.mem_map.mp inFields
  have named : source.1 ∈ Keyed.names a.written := List.mem_map_of_mem inWritten
  have directives : "bool" ∉ Keyed.names Demand.readers := by decide
  rcases List.mem_cons.mp named with directive | modifier
  · exact directives (isFlag ▸ directive ▸ a.demand.directiveKnown)
  · rw [List.map_append] at modifier
    rcases List.mem_append.mp modifier with given | last
    · have known := a.demand.modifierNames.subset given
      simp_all
    · have known := (Json.namesOptional "timeout" _).subset last
      simp_all

theorem rereads (c : Condition) (writable : c.isWritable = true) :
    ofFields (Keyed.sorted (Json.canonicalFields c.written)) = .ok c := by
  cases c with
  | flag value =>
    show ((Shape.deferred value.toJson.canonical).mapError (Fault.misfit "bool")).map flag = _
    rw [Shape.deferredRereads]
    rfl
  | assertion a =>
    have read := a.rereads writable
    unfold ofFields written
    rw [noFlag, read]
    rfl

end Condition

namespace Demand

theorem completeUncounted {d : Directive} {count : Option UInt64} {c : Comparand Criterion}
    {demand : Demand} (read : c.complete d count = .ok demand) :
    demand.isCountedAbsence = false := by
  obtain ⟨target, _, read⟩ := bindOk.mp read
  obtain ⟨_, _, rfl⟩ := mapOk.mp read
  rfl

theorem relationUncounted {relation : Relation} {d : Directive} {count : Option UInt64}
    {demand : Demand} (read : readRelation relation d count = .ok demand) :
    demand.isCountedAbsence = false := by
  obtain ⟨_, _, read⟩ := bindOk.mp read
  exact completeUncounted read

theorem likesUncounted {criterion : Deferred String → Criterion} {d : Directive}
    {count : Option UInt64} {demand : Demand} (read : readLikes criterion d count = .ok demand) :
    demand.isCountedAbsence = false := by
  unfold readLikes at read
  split at read
  · cases read
  · obtain ⟨_, _, read⟩ := bindOk.mp read
    exact completeUncounted read

theorem absentUncounted {d : Directive} {count : Option UInt64} {demand : Demand}
    (read : readAbsent d count = .ok demand) : demand.isCountedAbsence = false := by
  obtain ⟨target, _, read⟩ := bindOk.mp read
  split at read
  · cases read
  · obtain ⟨_, _, rfl⟩ := mapOk.mp read
    rfl

theorem presentUncounted {d : Directive} {count : Option UInt64} {demand : Demand}
    (read : readPresent d count = .ok demand) : demand.isCountedAbsence = false := by
  obtain ⟨target, _, read⟩ := bindOk.mp read
  obtain ⟨_, _, rfl⟩ := mapOk.mp read
  rfl

theorem satisfiesUncounted {d : Directive} {count : Option UInt64} {demand : Demand}
    (read : readSatisfies d count = .ok demand) : demand.isCountedAbsence = false := by
  obtain ⟨target, _, read⟩ := bindOk.mp read
  obtain ⟨predicate, _, read⟩ := bindOk.mp read
  obtain ⟨kind, _, read⟩ := bindOk.mp read
  obtain ⟨_, _, rfl⟩ := mapOk.mp read
  rfl

theorem readersUncounted : ∀ entry ∈ readers, ∀ d count demand,
    entry.2 d count = .ok demand → demand.isCountedAbsence = false := by
  intro entry member d count demand read
  simp only [readers, List.mem_cons, List.not_mem_nil, or_false] at member
  rcases member with rfl | rfl | rfl | rfl | rfl | rfl | rfl | rfl | rfl | rfl | rfl
  exacts [presentUncounted read, absentUncounted read, relationUncounted read,
    relationUncounted read, likesUncounted read, likesUncounted read, relationUncounted read,
    relationUncounted read, relationUncounted read, relationUncounted read,
    satisfiesUncounted read]

theorem resolvedUncounted {m : Mapping} {a b : Demand} (resolved : a.resolve m = .ok b)
    (uncounted : a.isCountedAbsence = false) : b.isCountedAbsence = false := by
  cases a with
  | present presence =>
    obtain ⟨_, _, rfl⟩ := mapOk.mp resolved
    rfl
  | absent presence =>
    obtain ⟨_, located, rfl⟩ := mapOk.mp resolved
    obtain ⟨_, _, rfl⟩ := mapOk.mp located
    exact uncounted
  | compare comparison =>
    obtain ⟨_, _, rfl⟩ := mapOk.mp resolved
    rfl

end Demand

namespace Assertion

theorem readWritable {fields : Fields} {a : Assertion} (read : ofFields fields = .ok a) :
    a.isWritable = true := by
  obtain ⟨d, _, read⟩ := bindOk.mp read
  obtain ⟨reader, chosen, read⟩ := bindOk.mp read
  obtain ⟨timeout, timed, read⟩ := bindOk.mp read
  obtain ⟨count, _, read⟩ := bindOk.mp read
  obtain ⟨demand, demanded, rfl⟩ := mapOk.mp read
  have known : Demand.readers.get? d.name = some reader := by
    unfold Directive.choose at chosen
    split at chosen
    · next found =>
      cases chosen
      exact found
    · cases chosen
  have uncounted := Demand.readersUncounted _ (Keyed.memberOfFound known) d count demand demanded
  simp [isWritable, Directive.timeoutFits timed, uncounted]

theorem resolvedWritable {m : Mapping} {a b : Assertion} (resolved : a.resolve m = .ok b)
    (writable : a.isWritable = true) : b.isWritable = true := by
  obtain ⟨demand, demanded, rfl⟩ := mapOk.mp resolved
  simp only [isWritable, Bool.and_eq_true, Bool.not_eq_true'] at writable ⊢
  exact ⟨writable.1, Demand.resolvedUncounted demanded writable.2⟩

end Assertion

namespace Condition

theorem readWritable {fields : Fields} {c : Condition} (read : ofFields fields = .ok c) :
    c.isWritable = true := by
  unfold ofFields at read
  split at read
  · split at read
    · cases read
    · obtain ⟨_, _, rfl⟩ := mapsOk read
      rfl
  · obtain ⟨a, asserted, rfl⟩ := mapsOk read
    exact a.readWritable asserted

theorem resolvedWritable {m : Mapping} {c c' : Condition} (resolved : c.resolve m = .ok c')
    (writable : c.isWritable = true) : c'.isWritable = true := by
  cases c with
  | flag value =>
    obtain ⟨_, _, rfl⟩ := mapOk.mp resolved
    rfl
  | assertion a =>
    obtain ⟨_, asserted, rfl⟩ := mapOk.mp resolved
    exact Assertion.resolvedWritable asserted writable

end Condition

end PageCheck
