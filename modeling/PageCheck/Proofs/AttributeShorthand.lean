import PageCheck.Proofs.ActionGrammar
import PageCheck.Proofs.SortedFields

/-!
A key that names an attribute says nothing that a type and a value do not say. A map with such a key
is read as an assertion just when the map in which it is written out is, and as the same one; where
a directive does not compare with an expected value there is no room for it
(`attributeWrittenOut`).
-/
namespace PageCheck

namespace Keyed

variable {α β : Type} {pairs others : Keyed α}

theorem onlyIff {keys : List String} :
    Only pairs keys ↔ ∀ name, name ∉ keys → pairs.get? name = none :=
  ⟨fun only _ outside => only.absent outside, fun absent name member => by
    by_contra outside
    exact absentIff.mp (absent name outside) member⟩

theorem insertDistinct {name : String} {value : α} (new : pairs.get? name = none)
    (distinct : (names pairs).Nodup) : (names (insert name value pairs)).Nodup := by
  have moved := (insertPerm value (absentIff.mp new)).map Prod.fst
  exact moved.nodup_iff.mpr (List.nodup_cons.mpr ⟨absentIff.mp new, distinct⟩)

theorem May.elsewhere {key : String} {reads : α → β → Prop} {x : Option β}
    (same : pairs.get? key = others.get? key) (may : pairs.May key reads x) :
    others.May key reads x := by
  cases may with
  | missing absent => exact .missing (same ▸ absent)
  | given gives =>
    obtain ⟨written, found, stands⟩ := gives
    exact .given ⟨written, same ▸ found, stands⟩

end Keyed

structure Directive.AttributeSpelled (attr : String) (written : Json) (fields spelled : Fields) :
    Prop where
  short : fields.get? ("attr_" ++ attr) = some written
  free : ∀ key ∈ attributeStandsFor, fields.get? key = none
  gone : spelled.get? ("attr_" ++ attr) = none
  kind : spelled.get? "type" = some (ValueKind.attr attr).toJson
  value : spelled.get? "value" = some written
  same : ∀ name, name ≠ "attr_" ++ attr → name ≠ "type" → name ≠ "value" →
    fields.get? name = spelled.get? name

def Directive.spellAttribute (fields : Fields) (attr : String) (written : Json) : Fields :=
  Keyed.insert "value" written
    (Keyed.insert "type" (ValueKind.attr attr).toJson (fields.erase ("attr_" ++ attr)))

namespace Directive

variable {attr : String} {written : Json} {fields spelled : Fields}

theorem attributeKeyNot {key : String} (known : key ∈ Assertion.modifierKeys) :
    key ≠ "attr_" ++ attr :=
  Demand.unnamedModifiers key known attr

theorem attributeSpelled (short : fields.get? ("attr_" ++ attr) = some written)
    (free : ∀ key ∈ attributeStandsFor, fields.get? key = none) :
    AttributeSpelled attr written fields (spellAttribute fields attr written) := by
  have lookup (name : String) : (spellAttribute fields attr written).get? name =
      if name = "value" then some written
      else if name = "type" then some (ValueKind.attr attr).toJson
      else if name = "attr_" ++ attr then none else fields.get? name := by
    rw [spellAttribute, Keyed.getInsert, Keyed.getInsert, Keyed.getErase]
  have notValue : "attr_" ++ attr ≠ "value" := (attributeKeyNot (by decide)).symm
  have notType : "attr_" ++ attr ≠ "type" := (attributeKeyNot (by decide)).symm
  refine ⟨short, free, ?_, ?_, ?_, fun name other noType noValue => ?_⟩
  · rw [lookup, if_neg notValue, if_neg notType, if_pos rfl]
  · rw [lookup, if_neg (by decide), if_pos rfl]
  · rw [lookup, if_pos rfl]
  · rw [lookup, if_neg noValue, if_neg noType, if_neg other]

theorem spelledDistinct (distinct : fields.names.Nodup)
    (free : ∀ key ∈ attributeStandsFor, fields.get? key = none) :
    (spellAttribute fields attr written).names.Nodup := by
  refine Keyed.insertDistinct ?_ (Keyed.insertDistinct ?_ (Assertion.erasedDistinct distinct _))
  · rw [Keyed.getInsert, if_neg (by decide), Keyed.getErase, free "value" (by decide), ite_self]
  · rw [Keyed.getErase, free "type" (by decide), ite_self]

def comparing : List String :=
  ["equals", "notEquals", "likes", "notLikes", "checked", "unchecked", "selected", "unselected"]

theorem AttributeSpelled.sameAt (spells : AttributeSpelled attr written fields spelled)
    {key : String} (other : key ∈ ["timeout", "count", "predicate"]) :
    fields.get? key = spelled.get? key := by
  have known : key ∈ Assertion.modifierKeys ∧ key ≠ "type" ∧ key ≠ "value" := by
    revert key
    decide
  exact spells.same key (attributeKeyNot known.1) known.2.1 known.2.2

theorem AttributeSpelled.erase (spells : AttributeSpelled attr written fields spelled)
    {name : String} (plain : IsPlain Assertion.modifierKeys name) :
    AttributeSpelled attr written (fields.erase name) (spelled.erase name) := by
  have differs (key : String) (known : key ∈ Assertion.modifierKeys) : key ≠ name := by
    rintro rfl
    exact plain.1 known
  have unnamed : "attr_" ++ attr ≠ name := (plain.2 attr).symm
  refine ⟨?_, fun key stands => ?_, ?_, ?_, ?_, fun key other noType noValue => ?_⟩
  · rw [Keyed.getErase, if_neg unnamed, spells.short]
  · rw [Keyed.getErase, spells.free key stands, ite_self]
  · rw [Keyed.getErase, spells.gone, ite_self]
  · rw [Keyed.getErase, if_neg (differs _ (by decide)), spells.kind]
  · rw [Keyed.getErase, if_neg (differs _ (by decide)), spells.value]
  · rw [Keyed.getErase, Keyed.getErase, spells.same key other noType noValue]

end Directive

open Directive

variable {attr : String} {written : Json} {fields spelled : Fields}

namespace Demand

variable {body : Json} {rest : Fields} {demand : Demand}

theorem standsShort (short : rest.get? ("attr_" ++ attr) = some written)
    (stands : demand.StandsIn body rest) :
    ∃ target criterion value count,
      demand = .compare ⟨target, criterion, some (.attr attr), count⟩ ∧
      Target.Reads body target ∧ Criterion.IsSingle value criterion ∧
      Deferred.Reads written value ∧ rest.May "count" Json.IsCount count ∧
      rest.Only ["timeout", "count", "attr_" ++ attr] := by
  have shut {keys : List String} (known : keys ⊆ Assertion.modifierKeys) : ¬ rest.Only keys :=
    fun only => nomatch short.symm.trans
      (only.absent fun member => attributeKeyNot (known member) rfl)
  cases stands with
  | present _ _ only => exact (shut (by decide) only).elim
  | absent _ only => exact (shut (by decide) only).elim
  | one _ _ _ _ _ only => exact (shut (by decide) only).elim
  | many _ _ _ _ only => exact (shut (by decide) only).elim
  | satisfies _ _ _ _ only => exact (shut (by decide) only).elim
  | @named _ _ other _ _ targets single _ gives counted only =>
    have member : "attr_" ++ attr ∈ ["timeout", "count", "attr_" ++ other] := by
      by_contra outside
      exact nomatch short.symm.trans (only.absent outside)
    have same : "attr_" ++ attr = "attr_" ++ other := by
      simp only [List.mem_cons, List.not_mem_nil, or_false] at member
      obtain timeout | count | same := member
      · exact (attributeKeyNot (by decide) timeout.symm).elim
      · exact (attributeKeyNot (by decide) count.symm).elim
      · exact same
    obtain rfl : attr = other := (String.append_right_inj _).mp same
    obtain ⟨found, there, reads⟩ := gives
    obtain rfl := Option.some.inj (short.symm.trans there)
    exact ⟨_, _, _, _, rfl, targets, single, reads, counted, only⟩

theorem standsTyped {kind : ValueKind} (typed : rest.get? "type" = some kind.toJson)
    (value : rest.get? "value" = some written) (stands : demand.StandsIn body rest) :
    ∃ target criterion value count,
      demand = .compare ⟨target, criterion, some kind, count⟩ ∧
      Target.Reads body target ∧ Criterion.IsSingle value criterion ∧
      Deferred.Reads written value ∧ rest.May "count" Json.IsCount count ∧
      rest.Only ["timeout", "count", "type", "value"] := by
  have noType {keys : List String} (outside : "type" ∉ keys) : ¬ rest.Only keys :=
    fun only => nomatch typed.symm.trans (only.absent outside)
  have noValue {keys : List String} (outside : "value" ∉ keys) : ¬ rest.Only keys :=
    fun only => nomatch value.symm.trans (only.absent outside)
  cases stands with
  | present _ _ only => exact (noType (by decide) only).elim
  | absent _ only => exact (noType (by decide) only).elim
  | many _ _ _ _ only => exact (noValue (by decide) only).elim
  | satisfies _ _ _ _ only => exact (noValue (by decide) only).elim
  | named _ _ _ _ _ only =>
    refine (noType ?_ only).elim
    simpa using attributeKeyNot (by decide)
  | one targets single gives kinds counted only =>
    obtain ⟨found, there, reads⟩ := gives
    obtain rfl := Option.some.inj (value.symm.trans there)
    cases kinds with
    | missing absent => exact nomatch typed.symm.trans absent
    | given gives =>
      obtain ⟨found, there, same⟩ := gives
      obtain rfl := Option.some.inj (typed.symm.trans there)
      obtain rfl := Except.ok.inj
        ((ValueKind.readsIff.mpr rfl).symm.trans (ValueKind.readsIff.mpr same))
      exact ⟨_, _, _, _, rfl, targets, single, reads, counted, only⟩

theorem spelledStandsIff (spells : AttributeSpelled attr written fields spelled)
    (nonempty : attr ≠ "") : demand.StandsIn body fields ↔ demand.StandsIn body spelled := by
  constructor
  · intro stands
    obtain ⟨_, _, value, _, rfl, targets, single, reads, counted, only⟩ :=
      standsShort spells.short stands
    refine .one targets single ⟨written, spells.value, reads⟩ (.given ⟨_, spells.kind, rfl⟩)
      (counted.elsewhere (spells.sameAt (by decide))) (Keyed.onlyIff.mpr fun name outside => ?_)
    obtain ⟨noTimeout, noCount, noType, noValue⟩ : name ≠ "timeout" ∧ name ≠ "count" ∧
      name ≠ "type" ∧ name ≠ "value" := by simpa using outside
    by_cases named : name = "attr_" ++ attr
    · exact named ▸ spells.gone
    · rw [← spells.same name named noType noValue]
      exact only.absent (by simp [noTimeout, noCount, named])
  · intro stands
    obtain ⟨_, _, value, _, rfl, targets, single, reads, counted, only⟩ :=
      standsTyped spells.kind spells.value stands
    refine .named targets single nonempty ⟨written, spells.short, reads⟩
      (counted.elsewhere (spells.sameAt (by decide)).symm)
      (Keyed.onlyIff.mpr fun name outside => ?_)
    obtain ⟨noTimeout, noCount, unnamed⟩ : name ≠ "timeout" ∧ name ≠ "count" ∧
      name ≠ "attr_" ++ attr := by simpa using outside
    by_cases stands : name ∈ attributeStandsFor
    · exact spells.free name stands
    · obtain ⟨noType, noValue, -⟩ : name ≠ "type" ∧ name ≠ "value" ∧ name ≠ "values" := by
        simpa [attributeStandsFor] using stands
      rw [spells.same name unnamed noType noValue]
      exact only.absent (by simp [noTimeout, noCount, noType, noValue])

theorem singleCompares {value : Deferred String} {criterion : Criterion}
    (single : Criterion.IsSingle value criterion) : criterion.directive ∈ comparing := by
  cases single with
  | relates relation =>
    show relation.directive ∈ comparing
    cases relation <;> decide
  | likes =>
    show "likes" ∈ comparing
    decide
  | notLikes =>
    show "notLikes" ∈ comparing
    decide

end Demand

namespace Assertion

theorem directivePlain (a : Assertion) : IsPlain modifierKeys a.directive :=
  plainIff.mp (noModifier a.directive a.demand.directiveKnown)

theorem StandsIn.elsewhere {a : Assertion} {others : Fields} (stands : a.StandsIn fields)
    (agree : ∀ name, IsPlain modifierKeys name → fields.get? name = others.get? name)
    (demands : ∀ body, a.demand.StandsIn body (fields.erase a.directive) →
      a.demand.StandsIn body (others.erase a.directive))
    (timed : (fields.erase a.directive).get? "timeout" =
      (others.erase a.directive).get? "timeout") : a.StandsIn others := by
  obtain ⟨body, found, demanded⟩ := stands.demands
  refine ⟨fun name member => ⟨fun plain => ?_, fun same => same ▸ a.directivePlain⟩, ?_,
    stands.timed.elsewhere timed⟩
  · refine (stands.sole name ?_).mp plain
    by_contra outside
    exact Keyed.absentIff.mp ((agree name plain).symm.trans (Keyed.absentIff.mpr outside)) member
  · exact ⟨body, (agree _ a.directivePlain).symm.trans found, demands body demanded⟩

theorem spelledStandsIff (spells : AttributeSpelled attr written fields spelled)
    (nonempty : attr ≠ "") (a : Assertion) : a.StandsIn fields ↔ a.StandsIn spelled := by
  have agree (name : String) (plain : IsPlain modifierKeys name) :
      fields.get? name = spelled.get? name :=
    spells.same name (plain.2 attr) (fun same => plain.1 (same ▸ by decide))
      (fun same => plain.1 (same ▸ by decide))
  have inner := spells.erase a.directivePlain
  have known : "timeout" ∈ ["timeout", "count", "predicate"] := List.mem_cons_self
  have timed := inner.sameAt known
  constructor
  · intro stands
    exact stands.elsewhere agree
      (fun _ => (Demand.spelledStandsIff inner nonempty).mp) timed
  · intro stands
    exact stands.elsewhere (fun name plain => (agree name plain).symm)
      (fun _ => (Demand.spelledStandsIff inner nonempty).mpr) timed.symm

theorem StandsIn.comparesShort {a : Assertion} (stands : a.StandsIn fields)
    (short : fields.get? ("attr_" ++ attr) = some written) : a.directive ∈ comparing := by
  obtain ⟨body, _, demanded⟩ := stands.demands
  have beside : (fields.erase a.directive).get? ("attr_" ++ attr) = some written := by
    rw [Keyed.getErase, if_neg (a.directivePlain.2 attr).symm, short]
  obtain ⟨_, criterion, _, _, same, _, single, -⟩ := Demand.standsShort beside demanded
  have directive : a.directive = criterion.directive := congrArg Demand.directive same
  rw [directive]
  exact Demand.singleCompares single

end Assertion

theorem attributeWrittenOut {fields : Fields} (distinct : fields.names.Nodup) {attr : String}
    {written : Json} (short : fields.get? ("attr_" ++ attr) = some written) :
    (attr ≠ "" → (∀ key ∈ attributeStandsFor, fields.get? key = none) →
      ∀ a, Assertion.ofFields fields = .ok a ↔
        Assertion.ofFields (spellAttribute fields attr written) = .ok a) ∧
    (∀ name ∈ fields.names, IsPlain Assertion.modifierKeys name → name ∉ comparing →
      ∃ fault, Assertion.ofFields fields = .error fault ∧
        (Failure.scenario fault).isConfiguration = true) ∧
    ∃ fault, Action.ofFields fields = .error fault ∧
      (Failure.scenario fault).isConfiguration = true := by
  have refused {α : Type} {outcome : Except Fault α} (never : ∀ value, outcome ≠ .ok value) :
      ∃ fault, outcome = .error fault ∧ (Failure.scenario fault).isConfiguration = true := by
    cases outcome with
    | ok value => exact (never value rfl).elim
    | error fault => exact ⟨fault, rfl, rfl⟩
  have inside : "attr_" ++ attr ∈ fields.names := by
    by_contra outside
    exact nomatch short.symm.trans (Keyed.absentIff.mpr outside)
  refine ⟨fun nonempty free a => ?_, fun name member plain other => refused fun a read => ?_,
    refused fun a read => ?_⟩
  · rw [Assertion.readIff distinct, Assertion.readIff (spelledDistinct distinct free)]
    exact Assertion.spelledStandsIff (attributeSpelled short free) nonempty a
  · have stands := (Assertion.readIff distinct).mp read
    rw [(stands.sole name member).mp plain] at other
    exact other (stands.comparesShort short)
  · exact (((Action.readIff distinct).mp read).uncounted inside).2 attr rfl

def linked (directive : String) : Fields :=
  [("attr_href", .text "/"), (directive, .record [("css", .text "a")])]

def linkedHome : Assertion where
  demand := .compare {
    target := .element (.value { strategy := .css, selector := "a" })
    criterion := .likes (.value "/")
    kind := some (.attr "href")
    count := none }
  timeout := none

theorem attributeWrittenOutHome :
    (linked "likes").names.Nodup ∧ (linked "likes").get? ("attr_" ++ "href") = some (.text "/") ∧
    Assertion.ofFields [("likes", .record [("css", .text "a")]),
      ("type", .record [("attr", .text "href")]), ("value", .text "/")] = .ok linkedHome ∧
    (linked "exists").names.Nodup ∧ (linked "exists").get? ("attr_" ++ "href") = some (.text "/") ∧
    ∃ fault, Assertion.ofFields (linked "exists") = .error fault ∧
      (Failure.scenario fault).isConfiguration = true := by
  have distinct : (linked "likes").names.Nodup := by decide
  have short : (linked "likes").get? ("attr_" ++ "href") = some (.text "/") := rfl
  have distinct' : (linked "exists").names.Nodup := by decide
  have short' : (linked "exists").get? ("attr_" ++ "href") = some (.text "/") := rfl
  have read : Assertion.ofFields (linked "likes") = .ok linkedHome := rfl
  have free : ∀ key ∈ attributeStandsFor, (linked "likes").get? key = none := by decide
  have plain : IsPlain Assertion.modifierKeys "exists" :=
    plainIff.mp (Assertion.noModifier "exists" (by decide))
  exact ⟨distinct, short,
    ((attributeWrittenOut distinct short).1 (by decide) free linkedHome).mp read, distinct', short',
    (attributeWrittenOut distinct' short').2.1 "exists" (by decide) plain (by decide)⟩

end PageCheck
