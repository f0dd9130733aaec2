import PageCheck.Assertion.Reader
import PageCheck.Proofs.DirectiveGrammar

/-!
The grammar of what is compared: targets, types, and the modifiers that name an attribute, of which
one alone stands for a type and an expected value at once.
-/
namespace PageCheck

variable {d : Directive}

inductive Target.Reads (written : Json) : Target → Prop where
  | html (named : written = .text "html") : Reads written .html
  | url (named : written = .text "url") : Reads written .url
  | element {locator : Deferred Locator} (reads : Deferred.Reads written locator) :
    Reads written (.element locator)

theorem Target.readsIff {written : Json} {target : Target} :
    Target.ofJson written = .ok target ↔ Target.Reads written target := by
  have located {written : Json}
      (other : Target.ofJson written =
        ((Shape.deferred written).mapError (Fault.misfit "locator")).map element)
      (nameless : ∀ name, written ≠ .text name) :
      Target.ofJson written = .ok target ↔ Target.Reads written target := by
    rw [other, mapsIff]
    constructor
    · rintro ⟨locator, read, rfl⟩
      exact .element (Shape.deferredIff.mp (mapErrorOk read))
    · rintro (named | named | reads)
      · exact (nameless _ named).elim
      · exact (nameless _ named).elim
      · exact ⟨_, mapErrorIff.mpr (Shape.deferredIff.mpr reads), rfl⟩
  cases written with
  | text name =>
    constructor
    · intro read
      change (if name = "html" then .ok html else if name = "url" then .ok url
        else .error (.unknownTarget name) : Except Fault Target) = _ at read
      split at read
      · next named =>
        cases read
        exact .html (named ▸ rfl)
      · split at read
        · next named =>
          cases read
          exact .url (named ▸ rfl)
        · cases read
    · rintro (⟨⟨⟩⟩ | ⟨⟨⟩⟩ | (found | found))
      · rfl
      · rfl
      · cases found
      · cases found
  | _ => exact located rfl nofun

def ValueKind.Reads (written : Json) (kind : ValueKind) : Prop := written = kind.toJson

theorem ValueKind.readsIff {written : Json} {kind : ValueKind} :
    ValueKind.ofJson written = .ok kind ↔ ValueKind.Reads written kind := by
  constructor
  · intro read
    unfold ofJson at read
    split at read
    · split at read
      · next named =>
        cases read
        exact congrArg Json.text named
      · split at read
        · next named =>
          cases read
          exact congrArg Json.text named
        · split at read
          · next named =>
            cases read
            exact congrArg Json.text named
          · cases read
    · split at read
      · next named =>
        cases read
        subst named
        rfl
      · cases read
    · cases read
    · cases read
  · rintro rfl
    cases kind <;> rfl

theorem ValueKind.ofDirectiveIff {kind : Option ValueKind} :
    ValueKind.ofDirective d = .ok kind ↔ d.modifiers.May "type" ValueKind.Reads kind := by
  unfold ofDirective
  refine Keyed.mayIff (fun _ _ => ValueKind.readsIff) ?_ ?_
  · intro absent
    rw [absent]
  · intro written found
    rw [found]

namespace Directive

abbrev attributes (fields : Fields) : List ((String × Json) × String) :=
  fields.filterMap fun field => (namedAttribute? field.1).map ((field, ·))

theorem noAttributeIff {fields : Fields} :
    attributes fields = [] ↔ ∀ name ∈ fields.names, ∀ attr, name ≠ "attr_" ++ attr := by
  rw [List.filterMap_eq_nil_iff]
  constructor
  · rintro none name member attr rfl
    obtain ⟨field, inside, named⟩ := List.mem_map.mp member
    have found := none field inside
    rw [named, namedIff.mpr rfl] at found
    cases found
  · intro unnamed field inside
    cases found : namedAttribute? field.1 with
    | none => rfl
    | some attr => exact (unnamed _ (List.mem_map_of_mem inside) attr (namedIff.mp found)).elim

theorem memberOfAttributes {fields : Fields} {field : String × Json} {attr : String} :
    (field, attr) ∈ attributes fields ↔ field ∈ fields ∧ field.1 = "attr_" ++ attr := by
  rw [List.mem_filterMap]
  constructor
  · rintro ⟨other, inside, found⟩
    obtain ⟨name, named, ⟨⟩⟩ := Option.map_eq_some_iff.mp found
    exact ⟨inside, namedIff.mp named⟩
  · rintro ⟨inside, named⟩
    exact ⟨field, inside, by rw [namedIff.mpr named]; rfl⟩

theorem oneAttributeIff {fields : Fields} (distinct : fields.names.Nodup) {key attr : String}
    {written : Json} :
    attributes fields = [((key, written), attr)] ↔
      key = "attr_" ++ attr ∧ fields.get? key = some written ∧
        ∀ name ∈ fields.names, ∀ other, name = "attr_" ++ other → name = key := by
  have kept : attributes fields =
      attributes (fields.filter fun field => (namedAttribute? field.1).isSome) := by
    unfold attributes
    rw [List.filterMap_filter]
    congr 1
    funext field
    cases namedAttribute? field.1 <;> rfl
  have alone := Keyed.filterAlone distinct (fun name => (namedAttribute? name).isSome) key written
  simp only [Option.isSome_iff_exists, namedIff, forall_exists_index] at alone
  constructor
  · intro one
    have member : ((key, written), attr) ∈ attributes fields := one ▸ List.mem_singleton_self _
    obtain ⟨inside, named⟩ := memberOfAttributes.mp member
    refine ⟨named, (Keyed.foundIff distinct).mpr inside, fun name member other same => ?_⟩
    obtain ⟨field, inside, rfl⟩ := List.mem_map.mp member
    have another := memberOfAttributes.mpr ⟨inside, same⟩
    rw [one, List.mem_singleton] at another
    exact congrArg (·.1.1) another
  · rintro ⟨named, found, sole⟩
    rw [kept, alone.mpr ⟨found, ⟨attr, named⟩, sole⟩]
    simp [attributes, namedIff.mpr named]

theorem absentAlone {fields : Fields} {keys : List String} :
    (keys.find? fun key => fields.has key) = none ↔ ∀ key ∈ keys, fields.get? key = none := by
  rw [List.find?_eq_none]
  refine forall₂_congr fun key _ => ?_
  rw [Keyed.hasFound, Bool.not_eq_true, Option.isSome_eq_false_iff,
    Option.isNone_iff_eq_none]

theorem unnamedIff : d.shorthand? = .ok none ↔
    ∀ name ∈ d.modifiers.names, ∀ attr, name ≠ "attr_" ++ attr := by
  rw [← noAttributeIff]
  unfold shorthand?
  constructor
  · intro read
    split at read
    · next none => exact none
    · split at read
      · cases read
      · split at read
        · cases read
        · obtain ⟨value, _, same⟩ := mapOk.mp read
          cases same
    · cases read
  · intro none
    rw [show d.modifiers.filterMap _ = [] from none]

theorem shorthandIff (distinct : d.modifiers.names.Nodup) {key attr : String}
    {value : Deferred String} :
    d.shorthand? = .ok (some (key, attr, value)) ↔
      (key = "attr_" ++ attr ∧ d.modifiers.Gives key Deferred.Reads value ∧
        ∀ name ∈ d.modifiers.names, ∀ other, name = "attr_" ++ other → name = key) ∧
      attr ≠ "" ∧ ∀ other ∈ attributeStandsFor, d.modifiers.get? other = none := by
  unfold shorthand?
  constructor
  · intro read
    split at read
    · cases read
    · next one =>
      split at read
      · cases read
      · next nonempty =>
        split at read
        · cases read
        · next alone =>
          obtain ⟨_, reads, same⟩ := mapOk.mp read
          cases same
          obtain ⟨named, found, sole⟩ := (oneAttributeIff distinct).mp one
          have reads := Shape.deferredIff.mp (mapErrorOk reads)
          exact ⟨⟨named, ⟨_, found, reads⟩, sole⟩, nonempty, absentAlone.mp alone⟩
    · cases read
  · rintro ⟨⟨named, ⟨written, found, reads⟩, sole⟩, nonempty, alone⟩
    rw [show d.modifiers.filterMap _ = [((key, written), attr)] from
      (oneAttributeIff distinct).mpr ⟨named, found, sole⟩]
    dsimp only
    rw [if_neg nonempty, absentAlone.mpr alone, Shape.deferredIff.mpr reads]
    rfl

end Directive

namespace Comparand

variable {α : Type} {ofOne : Deferred String → α} {keys : List String} {plain : Except Fault α}

inductive ReadAs (d : Directive) (ofOne : Deferred String → α) (keys : List String)
    (plain : Except Fault α) : Comparand α → Prop where
  | short {key attr value} (short : d.shorthand? = .ok (some (key, attr, value))) :
    ReadAs d ofOne keys plain ⟨ofOne value, some (.attr attr), [key]⟩
  | plain {expected kind} (unnamed : d.shorthand? = .ok none) (read : plain = .ok expected)
      (typed : d.modifiers.May "type" ValueKind.Reads kind) :
    ReadAs d ofOne keys plain ⟨expected, kind, "type" :: keys⟩

theorem readIff {c : Comparand α} :
    Comparand.read d ofOne keys plain = .ok c ↔ ReadAs d ofOne keys plain c := by
  unfold Comparand.read
  rw [bindOk]
  constructor
  · rintro ⟨_ | ⟨key, attr, value⟩, short, read⟩
    · obtain ⟨expected, found, read⟩ := bindOk.mp read
      obtain ⟨kind, typed, rfl⟩ := mapOk.mp read
      exact .plain short found (ValueKind.ofDirectiveIff.mp typed)
    · cases read
      exact .short short
  · rintro (short | ⟨unnamed, read, typed⟩)
    · exact ⟨_, short, rfl⟩
    · refine ⟨none, unnamed, bindOk.mpr ⟨_, read, ?_⟩⟩
      exact mapOk.mpr ⟨_, ValueKind.ofDirectiveIff.mpr typed, rfl⟩

theorem completeIff {c : Comparand Criterion} {count : Option UInt64} {demand : Demand} :
    c.complete d count = .ok demand ↔
      ∃ target, Target.Reads d.body target ∧ d.modifiers.Only ("timeout" :: "count" :: c.keys) ∧
        demand = .compare ⟨target, c.expected, c.kind, count⟩ := by
  unfold Comparand.complete
  simp only [bindOk, Target.readsIff]
  refine exists_congr fun target => and_congr_right fun _ => ?_
  constructor
  · rintro ⟨_, finished, ⟨⟩⟩
    exact ⟨Directive.finishIff.mp finished, rfl⟩
  · rintro ⟨only, rfl⟩
    exact ⟨(), Directive.finishIff.mpr only, rfl⟩

end Comparand

end PageCheck
