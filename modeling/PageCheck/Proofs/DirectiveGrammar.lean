import Mathlib.Data.List.Forall2
import Mathlib.Data.List.Nodup
import PageCheck.Proofs.WrittenDirective

/-!
The grammar of directive maps, as relations between what is written and what it says: single values,
modifiers that stand beside a directive or may be missing, and the one directive among the fields.
The readers of directives find what is related, and nothing else.
-/
namespace PageCheck

namespace Keyed

variable {α β : Type} {pairs : Keyed α}

theorem absentIff {name : String} : pairs.get? name = none ↔ name ∉ names pairs := by
  refine ⟨fun absent member => ?_, foundNone⟩
  obtain ⟨pair, inside, rfl⟩ := List.mem_map.mp member
  have unfound := List.find?_eq_none.mp (Option.map_eq_none_iff.mp absent) pair inside
  simp at unfound

theorem filterAlone (distinct : (names pairs).Nodup) (p : String → Bool) (name : String)
    (value : α) :
    pairs.filter (fun pair => p pair.1) = [(name, value)] ↔
      pairs.get? name = some value ∧ p name = true ∧
        ∀ other ∈ names pairs, p other = true → other = name := by
  constructor
  · intro alone
    have member : (name, value) ∈ pairs.filter fun pair => p pair.1 := by
      rw [alone]
      exact List.mem_singleton_self _
    obtain ⟨inside, chosen⟩ := List.mem_filter.mp member
    refine ⟨(foundIff distinct).mpr inside, chosen, fun other named chosen => ?_⟩
    obtain ⟨pair, inside, rfl⟩ := List.mem_map.mp named
    have kept : pair ∈ pairs.filter fun pair => p pair.1 := List.mem_filter.mpr ⟨inside, chosen⟩
    rw [alone, List.mem_singleton] at kept
    exact congrArg Prod.fst kept
  · rintro ⟨found, chosen, sole⟩
    have nodup : (pairs.filter fun pair => p pair.1).Nodup :=
      (List.Nodup.of_map Prod.fst distinct).filter _
    refine List.Perm.eq_singleton ((List.perm_ext_iff_of_nodup nodup
      (List.nodup_singleton _)).mpr fun pair => ?_)
    rw [List.mem_filter, List.mem_singleton]
    constructor
    · rintro ⟨inside, kept⟩
      obtain rfl := sole pair.1 (List.mem_map_of_mem inside) kept
      have same : some value = some pair.2 := found.symm.trans ((foundIff distinct).mpr inside)
      exact Prod.ext rfl (Option.some.inj same).symm
    · rintro rfl
      exact ⟨(foundIff distinct).mp found, chosen⟩

theorem keptName {name other : String} (member : other ∈ names pairs) (differs : other ≠ name) :
    other ∈ names (pairs.erase name) := by
  obtain ⟨pair, inside, rfl⟩ := List.mem_map.mp member
  exact List.mem_map_of_mem (List.mem_filter.mpr ⟨inside, by simpa using differs⟩)

def Only (pairs : Keyed α) (keys : List String) : Prop := ∀ name ∈ names pairs, name ∈ keys

theorem Only.mono {keys others : List String} (only : Only pairs keys) (wider : keys ⊆ others) :
    Only pairs others :=
  fun name member => wider (only name member)

theorem Only.without {keys others : List String} (only : Only pairs keys) {key : String}
    (absent : pairs.get? key = none) (rest : ∀ name ∈ keys, name = key ∨ name ∈ others) :
    Only pairs others := by
  intro name member
  refine (rest name (only name member)).resolve_left ?_
  rintro rfl
  exact absentIff.mp absent member

theorem Only.absent {keys : List String} (only : Only pairs keys) {key : String}
    (outside : key ∉ keys) : pairs.get? key = none :=
  absentIff.mpr fun member => outside (only key member)

def Gives (pairs : Keyed α) (key : String) (reads : α → β → Prop) (x : β) : Prop :=
  ∃ written, pairs.get? key = some written ∧ reads written x

inductive May (pairs : Keyed α) (key : String) (reads : α → β → Prop) : Option β → Prop where
  | missing (absent : pairs.get? key = none) : May pairs key reads none
  | given {x : β} (gives : pairs.Gives key reads x) : May pairs key reads (some x)

theorem mayIff {ε : Type} {key : String} {read : α → Except ε β} {reads : α → β → Prop}
    {result : Except ε (Option β)} {x : Option β}
    (agrees : ∀ written x, read written = .ok x ↔ reads written x)
    (atNone : pairs.get? key = none → result = .ok none)
    (atSome : ∀ written, pairs.get? key = some written → result = (read written).map some) :
    result = .ok x ↔ pairs.May key reads x := by
  cases found : pairs.get? key with
  | none =>
    rw [atNone found]
    constructor
    · rintro ⟨⟩
      exact .missing found
    · rintro (absent | ⟨written, there, _⟩)
      · rfl
      · exact nomatch found.symm.trans there
  | some written =>
    rw [atSome written found, mapsIff]
    constructor
    · rintro ⟨value, readable, rfl⟩
      exact .given ⟨written, found, (agrees _ _).mp readable⟩
    · rintro (absent | ⟨other, there, stands⟩)
      · exact nomatch found.symm.trans absent
      · obtain rfl := Option.some.inj (found.symm.trans there)
        exact ⟨_, (agrees _ _).mpr stands, rfl⟩

end Keyed

inductive Deferred.Reads {α : Type} [Slot α] (written : Json) : Deferred α → Prop where
  | reference {p : Placeholder} (found : Placeholder.ofJson written = some p) :
    Reads written (.reference p)
  | literal {x : α} (found : Slot.ofJson written = some x) : Reads written (.value x)

class PlainSlot (α : Type) [Slot α] : Prop where
  noReference {written : Json} {x : α} (found : Slot.ofJson written = some x) :
    Placeholder.ofJson written = none

instance : PlainSlot String where
  noReference {written x} found := by
    cases written with
    | text value => rfl
    | _ => cases found

instance : PlainSlot Bool where
  noReference {written x} found := by
    cases written with
    | bool value => rfl
    | _ => cases found

instance : PlainSlot Locator where
  noReference {written l} found := by
    have noStrategy (key : String) :
        Locator.ofJson (.record [("placeholder", .text key)]) = none := rfl
    unfold Placeholder.ofJson
    split
    · next key append read =>
      unfold Segment.ofJson at read
      split at read
      case h_1 => cases read
      case h_4 key => exact nomatch (noStrategy key).symm.trans found
      case h_7 => cases read
      all_goals cases found
    · rfl

section Deferred

variable {α : Type} [Slot α] [PlainSlot α] {written : Json} {d : Deferred α}

theorem Deferred.readsIff : Deferred.ofJson written = some d ↔ Deferred.Reads written d := by
  unfold Deferred.ofJson
  constructor
  · intro read
    split at read
    · next found =>
      cases read
      exact .reference found
    · obtain ⟨x, found, rfl⟩ := Option.map_eq_some_iff.mp read
      exact .literal found
  · rintro (found | found)
    · rw [found]
    · rw [PlainSlot.noReference found, found]
      rfl

theorem Shape.deferredIff : Shape.deferred (α := α) written = .ok d ↔ Deferred.Reads written d := by
  rw [← Deferred.readsIff]
  unfold Shape.deferred
  cases Deferred.ofJson (α := α) written with
  | none => exact iff_of_false nofun nofun
  | some found => exact ⟨fun same => congrArg some (Except.ok.inj same),
      fun same => congrArg Except.ok (Option.some.inj same)⟩

end Deferred

def Deferred.Lists (written : Json) (values : List (Deferred String)) : Prop :=
  ∃ items, written = .list items ∧ List.Forall₂ Deferred.Reads items values

def Json.IsNatural (written : Json) (n : Nat) : Prop :=
  written = Json.nat n ∧ n ≤ Json.maxNatural

def Json.IsCount (written : Json) (count : UInt64) : Prop := written = Json.nat count.toNat

def Json.IsText (written : Json) (value : String) : Prop := written = .text value

namespace Shape

theorem itemsIff {items : List Json} {values : List (Deferred String)} :
    Shape.items deferred items = .ok values ↔ List.Forall₂ Deferred.Reads items values := by
  induction items generalizing values with
  | nil =>
    rw [List.forall₂_nil_left_iff]
    exact ⟨fun same => (Except.ok.inj same).symm, fun same => congrArg Except.ok same.symm⟩
  | cons item rest ih =>
    rw [items, bindOk, List.forall₂_cons_left_iff]
    constructor
    · rintro ⟨first, read, others⟩
      obtain ⟨last, following, rfl⟩ := mapOk.mp others
      exact ⟨first, last, deferredIff.mp read, ih.mp following, rfl⟩
    · rintro ⟨first, last, reads, following, rfl⟩
      exact ⟨first, deferredIff.mpr reads, mapOk.mpr ⟨last, ih.mpr following, rfl⟩⟩

theorem deferredListIff {written : Json} {values : List (Deferred String)} :
    deferredList written = .ok values ↔ Deferred.Lists written values := by
  cases written with
  | list items =>
    refine itemsIff.trans ⟨fun reads => ⟨items, rfl, reads⟩, ?_⟩
    rintro ⟨_, ⟨⟩, reads⟩
    exact reads
  | _ => exact iff_of_false nofun nofun

theorem unsignedIff {expected : Shape} {written : Json} {n : Nat} :
    unsigned expected written = .ok n ↔ Json.IsNatural written n := by
  refine ⟨fun read => ⟨?_, unsignedFits read⟩, ?_⟩
  · unfold unsigned at read
    split at read
    · split at read
      · cases read
      · next natural =>
        split at read
        · cases read
          rw [Json.nat, Int.toNat_of_nonneg (by omega)]
        · cases read
    · cases read
  · rintro ⟨rfl, fits⟩
    exact unsignedRereads expected fits

theorem elementsIff {written : Json} {count : UInt64} :
    elements written = .ok count ↔ Json.IsCount written count := by
  refine ⟨fun read => ?_, ?_⟩
  · obtain ⟨n, natural, rfl⟩ := mapsOk read
    obtain ⟨rfl, fits⟩ := unsignedIff.mp natural
    have small : n < UInt64.size := Nat.lt_succ_of_le fits
    rw [Json.IsCount, Nat.toUInt64_eq, UInt64.toNat_ofNat_of_lt' small]
  · rintro rfl
    exact elementsReread count

theorem stringIff {written : Json} {value : String} :
    string written = .ok value ↔ Json.IsText written value := by
  cases written with
  | text found =>
    exact ⟨fun same => congrArg Json.text (Except.ok.inj same), fun same =>
      congrArg Except.ok (Json.text.inj same)⟩
  | _ => exact iff_of_false nofun nofun

end Shape

namespace Directive

section Fields

variable {α : Type} {d : Directive} {key : String} {read : Shape.Reader α}
  {reads : Json → α → Prop} (agrees : ∀ written x, read written = .ok x ↔ reads written x)

include agrees

theorem valueIff {x : α} : d.value read = .ok x ↔ reads d.body x :=
  mapErrorIff.trans (agrees _ _)

theorem optionalIff {x : Option α} :
    d.modifier? key read = .ok x ↔ d.modifiers.May key reads x := by
  have explained (written : Json) (x : α) :
      (read written).mapError (Fault.misfit key) = .ok x ↔ reads written x :=
    mapErrorIff.trans (agrees written x)
  unfold modifier?
  refine Keyed.mayIff explained ?_ ?_
  · intro absent
    rw [absent]
  · intro written found
    rw [found]

theorem neededIff {x : α} : d.modifier key read = .ok x ↔ d.modifiers.Gives key reads x := by
  unfold modifier
  rw [bindOk]
  constructor
  · rintro ⟨found, answered, given⟩
    cases found with
    | none => cases given
    | some value =>
      cases given
      cases (optionalIff agrees).mp answered with
      | given gives => exact gives
  · intro gives
    exact ⟨some x, (optionalIff agrees).mpr (.given gives), rfl⟩

end Fields

variable {d : Directive}

theorem finishIff {keys : List String} : d.finish keys = .ok () ↔ d.modifiers.Only keys := by
  unfold finish
  cases found : d.modifiers.find? fun field => !(field.1 ∈ keys) with
  | some field =>
    refine iff_of_false nofun fun only => ?_
    have named := only field.1 (List.mem_map_of_mem (List.mem_of_find?_eq_some found))
    have unknown := List.find?_some found
    simp [named] at unknown
  | none =>
    refine iff_of_true rfl fun name member => ?_
    obtain ⟨field, inside, rfl⟩ := List.mem_map.mp member
    have known := List.find?_eq_none.mp found field inside
    simpa using known

theorem chooseIff {ρ : Type} {family : Family} {readers : Keyed ρ} {reader : ρ} :
    d.choose family readers = .ok reader ↔ readers.get? d.name = some reader := by
  unfold choose
  cases readers.get? d.name with
  | none => exact iff_of_false nofun nofun
  | some found => exact ⟨fun same => congrArg some (Except.ok.inj same),
      fun same => congrArg Except.ok (Option.some.inj same)⟩

theorem timeoutIff {time : Option Nat} :
    d.timeout? = .ok time ↔ d.modifiers.May "timeout" Json.IsNatural time :=
  optionalIff fun _ _ => Shape.unsignedIff

theorem namedIff {key attr : String} :
    namedAttribute? key = some attr ↔ key = "attr_" ++ attr := by
  unfold namedAttribute?
  rw [Option.map_eq_some_iff]
  constructor
  · rintro ⟨rest, found, rfl⟩
    have ending : (String.ofList rest).toList = rest := String.toList_ofList
    rw [← String.toList_inj, Text.appendOfAfter found, String.toList_append, ending]
    rfl
  · rintro rfl
    refine ⟨attr.toList, ?_, String.ofList_toList⟩
    rw [String.toList_append]
    exact Text.afterAppend attributeMark attr.toList

def IsPlain (modifiers : List String) (key : String) : Prop :=
  key ∉ modifiers ∧ ∀ attr, key ≠ "attr_" ++ attr

theorem plainIff {modifiers : List String} {key : String} :
    isModifier modifiers key = false ↔ IsPlain modifiers key := by
  unfold isModifier IsPlain
  rw [Bool.or_eq_false_iff, decide_eq_false_iff_not, Option.isSome_eq_false_iff,
    Option.isNone_iff_eq_none, Option.eq_none_iff_forall_ne_some]
  exact and_congr_right fun _ => forall_congr' fun attr => not_congr namedIff

structure StandsIn (d : Directive) (modifiers : List String) (fields : Fields) : Prop where
  body : fields.get? d.name = some d.body
  rest : d.modifiers = fields.erase d.name
  sole : ∀ name ∈ fields.names, IsPlain modifiers name ↔ name = d.name

theorem StandsIn.named {modifiers : List String} {fields : Fields}
    (stands : d.StandsIn modifiers fields) : d.name ∈ fields.names :=
  List.mem_map_of_mem (Keyed.memberOfFound stands.body)

theorem splitIff {family : Family} {modifiers : List String} {fields : Fields}
    (distinct : fields.names.Nodup) :
    split family modifiers fields = .ok d ↔ d.StandsIn modifiers fields := by
  have alone (name : String) (body : Json) :
      fields.filter (fun field => !isModifier modifiers field.1) = [(name, body)] ↔
        fields.get? name = some body ∧ IsPlain modifiers name ∧
          ∀ other ∈ fields.names, IsPlain modifiers other → other = name := by
    have filtered := Keyed.filterAlone distinct (!isModifier modifiers ·) name body
    simpa only [Bool.not_eq_true', plainIff] using filtered
  unfold split
  constructor
  · intro read
    split at read
    · cases read
    · next name body kept =>
      cases read
      obtain ⟨found, plain, sole⟩ := (alone name body).mp kept
      exact ⟨found, rfl, fun other member => ⟨sole other member, fun same => same ▸ plain⟩⟩
    · cases read
  · intro stands
    have plain := (stands.sole d.name stands.named).mpr rfl
    have kept := (alone d.name d.body).mpr
      ⟨stands.body, plain, fun other member => (stands.sole other member).mp⟩
    rw [kept]
    show Except.ok { d with modifiers := fields.erase d.name } = .ok d
    rw [← stands.rest]

end Directive

inductive Expected.StandsIn (fields : Fields) : Expected → Prop where
  | one {value : Deferred String} (gives : fields.Gives "value" Deferred.Reads value)
    (single : fields.get? "values" = none) : StandsIn fields (.one value)
  | many {values : List (Deferred String)} (gives : fields.Gives "values" Deferred.Lists values)
    (single : fields.get? "value" = none) : StandsIn fields (.many values)

theorem Expected.ofDirectiveIff {d : Directive} {expected : Expected} :
    Expected.ofDirective d = .ok expected ↔ Expected.StandsIn d.modifiers expected := by
  unfold ofDirective
  simp only [bindOk, Directive.optionalIff fun _ _ => Shape.deferredIff,
    Directive.optionalIff fun _ _ => Shape.deferredListIff]
  constructor
  · rintro ⟨value, one, values, many, read⟩
    cases one <;> cases many <;> cases read
    · exact .many ‹_› ‹_›
    · exact .one ‹_› ‹_›
  · rintro (⟨gives, single⟩ | ⟨gives, single⟩)
    · exact ⟨_, .given gives, none, .missing single, rfl⟩
    · exact ⟨none, .missing single, _, .given gives, rfl⟩

end PageCheck
