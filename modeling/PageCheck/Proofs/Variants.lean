import PageCheck.Json.Struct
import PageCheck.Proofs.DirectiveGrammar
import PageCheck.Proofs.WrittenValue

/-!
Values that are written without the name of their variant. No value can be read as two variants, so
the order in which they are tried is immaterial, also for the segments inside a reference. What is
written for a value is read as that value again.
-/
namespace PageCheck

theorem Json.closedPair {required other : String} (differ : required ≠ other) {written x : Json}
    {fields : Fields} (closed : closedFields [required, other] written = some fields)
    (found : fields.get? required = some x) :
    (written = .record [(required, x)] ∨ written = .list [x]) ∧ fields.get? other = none ∨
    ∃ y, (written = .record [(required, x), (other, y)] ∨
      written = .record [(other, y), (required, x)] ∨ written = .list [x, y]) ∧
      fields.get? other = some y := by
  cases written with
  | record given =>
    simp only [closedFields, Option.ite_none_right_eq_some, Bool.and_eq_true, List.all_eq_true,
      List.mem_cons, List.not_mem_nil, or_false, decide_eq_true_eq, Option.some.injEq] at closed
    obtain ⟨⟨known, distinct⟩, rfl⟩ := closed
    rcases given with _ | ⟨a, _ | ⟨b, _ | ⟨c, rest⟩⟩⟩
    · cases found
    · have first := known a (by simp)
      grind [Keyed.getCons, Keyed.getNil]
    · have first := known a (by simp)
      have second := known b (by simp)
      simp [distinctIff, Keyed.names] at distinct
      grind [Keyed.getCons, Keyed.getNil]
    · -- three names out of two repeat one
      have first := known a (by simp)
      have second := known b (by simp)
      have third := known c (by simp)
      simp [distinctIff, Keyed.names] at distinct
      grind
  | list items =>
    rcases items with _ | ⟨y, _ | ⟨z, _ | ⟨_, rest⟩⟩⟩
    · cases closed
      cases found
    · cases closed
      simp_all [Keyed.getCons, Keyed.getNil]
    · cases closed
      simp_all [Keyed.getCons]
    · simp [closedFields] at closed
  | _ => cases closed

namespace Segment

mutual

inductive Reads : Json → Segment → Prop where
  | literal (text : String) : Reads (.text text) (.literal text)
  | reference {written fields key append}
      (closed : Json.closedFields ["placeholder", "append"] written = some fields)
      (named : Keyed.get? fields "placeholder" = some (.text key))
      (appended : Appends (Keyed.get? fields "append") append) :
      Reads written (.reference key append)

inductive Appends : Option Json → List Segment → Prop where
  | nothing : Appends none []
  | listed {items append} (each : ReadsAll items append) : Appends (some (.list items)) append

inductive ReadsAll : List Json → List Segment → Prop where
  | nil : ReadsAll [] []
  | cons {item items first rest} (head : Reads item first) (tail : ReadsAll items rest) :
      ReadsAll (item :: items) (first :: rest)

end

mutual

theorem readsIff : (s : Segment) → ∀ {written}, ofJson written = some s ↔ Reads written s
  | .literal text, written => by
    constructor
    · intro read
      unfold ofJson at read
      split at read <;> simp_all
      exact .literal text
    · intro reads
      cases reads
      rfl
  | .reference key append, written => by
    constructor
    · intro read
      unfold ofJson at read
      split at read
      case h_1 | h_7 => cases read
      case h_2 | h_4 =>
        cases read
        have alone : Appends (Keyed.get? [("placeholder", Json.text key)] "append") [] := .nothing
        exact .reference rfl rfl alone
      all_goals
        obtain ⟨_, inner, ⟨⟩⟩ := Option.map_eq_some_iff.mp read
        exact .reference rfl rfl (.listed ((readsAllIff append).mp inner))
    · rintro (_ | ⟨closed, named, appended⟩)
      rcases Json.closedPair (by decide) closed named with
        ⟨rfl | rfl, absent⟩ | ⟨y, rfl | rfl | rfl, there⟩
      case inl.inl | inl.inr =>
        rw [absent] at appended
        cases appended
        rfl
      all_goals
        rw [there] at appended
        cases appended with
        | listed each => simp [ofJson, (readsAllIff append).mpr each]

theorem readsAllIff : (list : List Segment) → ∀ {items},
    ofJsonAll items = some list ↔ ReadsAll items list
  | [], [] => ⟨fun _ => .nil, fun _ => rfl⟩
  | [], item :: items => by
    constructor
    · intro read
      simp [ofJsonAll, Option.bind_eq_some_iff] at read
    · intro reads
      cases reads
  | first :: rest, [] => ⟨nofun, nofun⟩
  | first :: rest, item :: items => by
    simp only [ofJsonAll, bind, Option.bind_eq_some_iff, pure]
    constructor
    · rintro ⟨_, head, _, tail, ⟨⟩⟩
      exact .cons ((readsIff first).mp head) ((readsAllIff rest).mp tail)
    · rintro (_ | ⟨head, tail⟩)
      exact ⟨first, (readsIff first).mpr head, rest, (readsAllIff rest).mpr tail, rfl⟩

end

end Segment

structure Unambiguous {α : Type} (variants : List (Json → Option α)) (read : Json → Option α)
    (write : α → Json) : Prop where
  atMostOne (written : Json) : (variants.filterMap (· written)).length ≤ 1
  anyOrder {order : List (Json → Option α)} (moved : order.Perm variants) (written : Json) :
    order.findSome? (· written) = read written
  rereads (value : α) : read (write value) = some value ∧ read (write value).canonical = some value

theorem findSomePerm {α : Type} {variants order : List (Json → Option α)} {written : Json}
    (few : (variants.filterMap (· written)).length ≤ 1) (moved : order.Perm variants) :
    order.findSome? (· written) = variants.findSome? (· written) := by
  have found : (order.filterMap (· written)).Perm (variants.filterMap (· written)) :=
    moved.filterMap _
  have same : order.filterMap (· written) = variants.filterMap (· written) := by
    generalize variants.filterMap (· written) = values at few found
    match values with
    | [] => exact List.perm_nil.mp found
    | [value] => exact List.perm_singleton.mp found
    | _ :: _ :: _ => simp at few
  rw [← List.head?_filterMap, ← List.head?_filterMap, same]

theorem Unambiguous.inTurn {α : Type} {variants : List (Json → Option α)} {read : Json → Option α}
    {write : α → Json} (few : ∀ written, (variants.filterMap (· written)).length ≤ 1)
    (turns : ∀ written, variants.findSome? (· written) = read written)
    (rereads : ∀ value, read (write value) = some value ∧
      read (write value).canonical = some value) : Unambiguous variants read write where
  atMostOne := few
  anyOrder moved written := (findSomePerm (few written) moved).trans (turns written)
  rereads := rereads

def Deferred.variants {α : Type} [Slot α] : List (Json → Option (Deferred α)) :=
  [fun written => (Placeholder.ofJson written).map reference,
   fun written => (Slot.ofJson written).map value]

def Segment.variants : List (Json → Option Segment) :=
  [fun written => (Placeholder.ofJson written).map fun p => reference p.key p.append,
   fun written => (Slot.ofJson written).map literal]

def Entry.variants : List (Json → Option Entry) :=
  [fun written => (Slot.ofJson written).map bool,
   fun | .number n => some (number n) | _ => none,
   fun written => (Slot.ofJson written).map text,
   fun written => (Slot.ofJson written).map locator]

theorem Deferred.unambiguous {α : Type} [Slot α] [PlainSlot α] [LawfulSlot α] :
    Unambiguous (variants (α := α)) ofJson toJson := by
  refine .inTurn (fun written => ?_) (fun written => ?_) rereads
  · unfold variants
    cases literal : Slot.ofJson (α := α) written with
    | none => cases named : Placeholder.ofJson written <;> simp [literal, named]
    | some x => simp [literal, PlainSlot.noReference literal]
  · unfold variants ofJson
    cases named : Placeholder.ofJson written <;>
      cases literal : Slot.ofJson (α := α) written <;> simp [literal, named]

theorem Segment.unambiguous : Unambiguous variants ofJson toJson := by
  refine .inTurn (fun written => ?_) (fun written => ?_) Segment.rereads
  · unfold variants
    cases literal : Slot.ofJson (α := String) written with
    | none => cases named : Placeholder.ofJson written <;> simp [literal, named]
    | some x => simp [literal, PlainSlot.noReference literal]
  · have literally {text} (read : ofJson written = some (.literal text)) :
        written = .text text := by
      cases (readsIff _).mp read
      rfl
    unfold variants Placeholder.ofJson
    cases read : ofJson written with
    | none =>
      cases written with
      | text value => cases read
      | _ => simp [read, Slot.ofJson]
    | some s =>
      cases s with
      | literal text =>
        obtain rfl := literally read
        rfl
      | reference key append => simp [read]

theorem Entry.unambiguous : Unambiguous variants ofJson toJson := by
  refine .inTurn (fun written => ?_) (fun written => ?_) fun value => ?_
  · cases written with
    | record fields =>
      cases found : Locator.ofJson (.record fields) <;> simp [variants, Slot.ofJson, found]
    | _ => simp [variants, Slot.ofJson, Locator.ofJson]
  · cases written <;> simp [variants, Slot.ofJson, Locator.ofJson, ofJson]
  · cases value with
    | locator l =>
      have read : ofJson (toJson (.locator l)) = some (.locator l) :=
        congrArg (Option.map locator) l.rereads
      exact ⟨read, read⟩
    | _ => exact ⟨rfl, rfl⟩

theorem readAsOneVariant :
    Unambiguous (Deferred.variants (α := String)) Deferred.ofJson Deferred.toJson ∧
    Unambiguous (Deferred.variants (α := Locator)) Deferred.ofJson Deferred.toJson ∧
    Unambiguous (Deferred.variants (α := Bool)) Deferred.ofJson Deferred.toJson ∧
    Unambiguous Segment.variants Segment.ofJson Segment.toJson ∧
    Unambiguous Entry.variants Entry.ofJson Entry.toJson ∧
    ∀ written s, Segment.ofJson written = some s ↔ Segment.Reads written s :=
  ⟨Deferred.unambiguous, Deferred.unambiguous, Deferred.unambiguous, Segment.unambiguous,
    Entry.unambiguous, fun _ s => s.readsIff⟩

end PageCheck
