import PageCheck.Assertion.Expected
import PageCheck.Proofs.Resolution
import PageCheck.Proofs.WrittenValue

/-!
Directive maps as they are written: what stands in a written map is what its readers find. The
readers of the single directives look at a map only through `Writes`.
-/
namespace PageCheck

namespace Keyed

variable {α : Type}

theorem foundNone {pairs : Keyed α} {name : String} (missing : name ∉ names pairs) :
    pairs.get? name = none := by
  induction pairs with
  | nil => rfl
  | cons pair rest ih =>
    have differs : pair.1 ≠ name := fun same => missing (by simp [names, same])
    rw [getCons, if_neg differs]
    exact ih fun member => missing (List.mem_cons_of_mem _ member)

theorem memberOfFound {pairs : Keyed α} {name : String} {value : α}
    (found : pairs.get? name = some value) : (name, value) ∈ pairs := by
  obtain ⟨pair, atPair, rfl⟩ := Option.map_eq_some_iff.mp found
  have same : pair.1 = name := by simpa using List.find?_some atPair
  exact same ▸ List.mem_of_find?_eq_some atPair

end Keyed

@[simp]
theorem Json.foundOptional (name other : String) (value : Option Json) :
    Keyed.get? (Json.optional name value) other = if name = other then value else none := by
  cases value with
  | none => simp [Json.optional, Keyed.getNil]
  | some v => simp [Json.optional, Keyed.getCons, Keyed.getNil]

theorem Json.namesOptional (name : String) (value : Option Json) :
    (Keyed.names (Json.optional name value)).Sublist [name] := by
  cases value with
  | none => exact List.nil_sublist _
  | some v => exact List.Sublist.refl _

namespace Shape

theorem deferredRereads {α : Type} [Slot α] [LawfulSlot α] (d : Deferred α) :
    deferred d.toJson.canonical = .ok d := by
  unfold deferred
  rw [d.rereads.2]

theorem itemsReread (values : List (Deferred String)) :
    items deferred (Json.canonicalItems (values.map Deferred.toJson)) = .ok values := by
  induction values with
  | nil => rfl
  | cons value rest ih =>
    simp only [List.map_cons, Json.canonicalItems, items]
    rw [deferredRereads, ih]
    rfl

theorem deferredListRereads (values : List (Deferred String)) :
    deferredList (Json.list (values.map Deferred.toJson)).canonical = .ok values :=
  itemsReread values

theorem unsignedRereads (expected : Shape) {n : Nat} (fits : n ≤ Json.maxNatural) :
    unsigned expected (Json.nat n) = .ok n := by
  have natural : ¬ (n : Int) < 0 := by omega
  have small : (n : Int) ≤ Json.maxNatural := by omega
  simp only [unsigned, Json.nat, if_neg natural, if_pos small, Int.toNat_natCast]

theorem unsignedFits {expected : Shape} {written : Json} {n : Nat}
    (read : unsigned expected written = .ok n) : n ≤ Json.maxNatural := by
  unfold unsigned at read
  split at read
  · split at read
    · cases read
    · split at read
      · next small =>
        cases read
        omega
      · cases read
  · cases read

theorem elementsReread (count : UInt64) : elements (Json.nat count.toNat) = .ok count := by
  have fits : count.toNat ≤ Json.maxNatural := Nat.le_of_lt_succ count.toNat_lt
  unfold elements
  rw [unsignedRereads _ fits]
  exact congrArg Except.ok (UInt64.ofNat_toNat)

end Shape

namespace Directive

theorem modifierRead {d : Directive} {key : String} {α : Type} {read : Shape.Reader α} {value : α}
    (found : d.modifier? key read = .ok (some value)) : ∃ written, read written = .ok value := by
  unfold modifier? at found
  split at found
  · cases found
  · next written _ =>
    obtain ⟨_, answered, same⟩ := mapsOk found
    cases same
    exact ⟨written, mapErrorOk answered⟩

structure Writes (d : Directive) (name : String) (body : Json) (modifiers : Fields) : Prop where
  name : d.name = name
  body : d.body = body.canonical
  found (key : String) : d.modifiers.get? key = (modifiers.get? key).map Json.canonical
  only : ∀ field ∈ d.modifiers, field.1 ∈ Keyed.names modifiers

theorem splitWritten (family : Family) {keys : List String} {name : String} (body : Json)
    {modifiers : Fields} (plain : isModifier keys name = false)
    (known : ∀ key ∈ Keyed.names modifiers, key ∈ keys)
    (distinct : (Keyed.names modifiers).Nodup) :
    ∃ d, Directive.split family keys
        (Keyed.sorted (Json.canonicalFields ((name, body) :: modifiers))) = .ok d ∧
      d.Writes name body modifiers := by
  have others : name ∉ Keyed.names modifiers := fun member => by
    simp [isModifier, known name member] at plain
  have fieldNames : Keyed.names (Json.canonicalFields ((name, body) :: modifiers)) =
      name :: Keyed.names modifiers := by
    simp [Json.canonicalFieldsMap, Keyed.names]
  have allDistinct : (Keyed.names (Json.canonicalFields ((name, body) :: modifiers))).Nodup :=
    fieldNames ▸ List.nodup_cons.mpr ⟨others, distinct⟩
  have moved := Keyed.sortedPerm allDistinct
  generalize sortedFields : Keyed.sorted (Json.canonicalFields ((name, body) :: modifiers)) =
    fields at moved
  have notModifiers : (Json.canonicalFields modifiers).filter
      (fun field => !isModifier keys field.1) = [] := by
    rw [List.filter_eq_nil_iff, Json.canonicalFieldsMap]
    intro field member
    obtain ⟨source, inside, rfl⟩ := List.mem_map.mp member
    simp [isModifier, known source.1 (List.mem_map_of_mem inside)]
  have directive : fields.filter (fun field => !isModifier keys field.1) =
      [(name, body.canonical)] := by
    have kept := moved.filter fun field => !isModifier keys field.1
    rw [Json.canonicalFields, List.filter_cons_of_pos (by simp [plain]), notModifiers] at kept
    exact kept.eq_singleton
  refine ⟨{ name, body := body.canonical, modifiers := fields.erase name }, ?_, rfl, rfl, ?_, ?_⟩
  · unfold Directive.split
    rw [directive]
  · intro key
    rw [Keyed.getErase, ← sortedFields, Keyed.foundSorted allDistinct, Json.canonicalFieldsMap,
      Keyed.foundMap, Keyed.getCons]
    split
    · next same => rw [same, Keyed.foundNone others]; rfl
    · next differs => rw [if_neg (Ne.symm differs)]
  · intro field member
    obtain ⟨inside, differs⟩ := List.mem_filter.mp member
    have named : field.1 ∈ name :: Keyed.names modifiers :=
      fieldNames ▸ List.mem_map_of_mem (moved.mem_iff.mp inside)
    exact (List.mem_cons.mp named).resolve_left (by simpa using differs)

namespace Writes

variable {d : Directive} {name key : String} {body written : Json} {modifiers : Fields}
  {α : Type} {read : Shape.Reader α} {value : α}

theorem reads (h : d.Writes name body modifiers) (readable : read body.canonical = .ok value) :
    d.value read = .ok value := by
  unfold Directive.value
  rw [h.body, readable]
  rfl

theorem missing (h : d.Writes name body modifiers) (read : Shape.Reader α)
    (absent : modifiers.get? key = none) : d.modifier? key read = .ok none := by
  unfold Directive.modifier?
  rw [h.found, absent]
  rfl

theorem given (h : d.Writes name body modifiers) (present : modifiers.get? key = some written)
    (readable : read written.canonical = .ok value) : d.modifier? key read = .ok (some value) := by
  unfold Directive.modifier?
  rw [h.found, present, Option.map_some]
  show ((read written.canonical).mapError _).map some = _
  rw [readable]
  rfl

theorem needed (h : d.Writes name body modifiers) (present : modifiers.get? key = some written)
    (readable : read written.canonical = .ok value) : d.modifier key read = .ok value := by
  unfold Directive.modifier
  rw [h.given present readable]
  rfl

theorem finishes (h : d.Writes name body modifiers) {taken : List String}
    (all : ∀ key ∈ Keyed.names modifiers, key ∈ taken) : d.finish taken = .ok () := by
  have none : d.modifiers.find? (fun field => !(field.1 ∈ taken)) = none := by
    rw [List.find?_eq_none]
    intro field member
    simp [all _ (h.only field member)]
  unfold Directive.finish
  rw [none]

theorem finishesInTime {timeout : Option Json} (h : d.Writes name body
      (modifiers ++ Json.optional "timeout" timeout)) {taken : List String}
    (timed : "timeout" ∈ taken) (all : ∀ key ∈ Keyed.names modifiers, key ∈ taken) :
    d.finish taken = .ok () := by
  refine h.finishes fun key member => ?_
  rw [Keyed.names, List.map_append] at member
  rcases List.mem_append.mp member with given | last
  · exact all key given
  · rw [List.mem_singleton.mp ((Json.namesOptional "timeout" timeout).subset last)]
    exact timed

theorem expectsOne (h : d.Writes name body modifiers) {expected : Deferred String}
    (one : modifiers.get? "value" = some expected.toJson)
    (many : modifiers.get? "values" = none) : Expected.ofDirective d = .ok (.one expected) := by
  unfold Expected.ofDirective
  rw [h.given one (Shape.deferredRereads expected), h.missing _ many]
  rfl

theorem expectsMany (h : d.Writes name body modifiers) {expected : List (Deferred String)}
    (one : modifiers.get? "value" = none)
    (many : modifiers.get? "values" = some (.list (expected.map Deferred.toJson))) :
    Expected.ofDirective d = .ok (.many expected) := by
  unfold Expected.ofDirective
  rw [h.missing _ one, h.given many (Shape.deferredListRereads expected)]
  rfl

theorem waits {timeout : Option Nat} (h : d.Writes name body
      (modifiers ++ Json.optional "timeout" (timeout.map Json.nat)))
    (others : modifiers.get? "timeout" = none) (fits : ∀ time ∈ timeout, time ≤ Json.maxNatural) :
    d.timeout? = .ok timeout := by
  have found : Keyed.get? (modifiers ++ Json.optional "timeout" (timeout.map Json.nat)) "timeout" =
      timeout.map Json.nat := by
    rw [Keyed.foundAppend, others, Json.foundOptional]
    rfl
  cases timeout with
  | none => exact h.missing _ found
  | some time => exact h.given found (Shape.unsignedRereads _ (fits time rfl))

end Writes

theorem splitTimed (family : Family) {keys order : List String} {name : String} (body : Json)
    {modifiers : Fields} {timeout : Option Nat} (plain : isModifier keys name = false)
    (ordered : (Keyed.names modifiers).Sublist order)
    (distinct : (order ++ ["timeout"]).Nodup)
    (known : ∀ key ∈ order ++ ["timeout"], key ∈ keys)
    (fits : ∀ time ∈ timeout, time ≤ Json.maxNatural) :
    ∃ d, Directive.split family keys (Keyed.sorted (Json.canonicalFields ((name, body) ::
        (modifiers ++ Json.optional "timeout" (timeout.map Json.nat))))) = .ok d ∧
      d.Writes name body (modifiers ++ Json.optional "timeout" (timeout.map Json.nat)) ∧
      d.timeout? = .ok timeout := by
  have names : (Keyed.names (modifiers ++
      Json.optional "timeout" (timeout.map Json.nat))).Sublist (order ++ ["timeout"]) := by
    rw [Keyed.names, List.map_append]
    exact ordered.append (Json.namesOptional _ _)
  obtain ⟨d, split, h⟩ := splitWritten family body plain
    (fun key member => known key (names.subset member)) (names.nodup distinct)
  have others : Keyed.get? modifiers "timeout" = none := Keyed.foundNone fun member =>
    (List.nodup_append.mp distinct).2.2 "timeout" (ordered.subset member) "timeout"
      (List.mem_singleton_self _) rfl
  exact ⟨d, split, h, h.waits others fits⟩

end Directive

end PageCheck
