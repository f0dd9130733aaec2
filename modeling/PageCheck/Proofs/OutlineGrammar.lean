import PageCheck.Proofs.DirectiveGrammar
import PageCheck.Proofs.RoundTrip

/-!
The grammar of outlines: which documents are lists of steps before any directive map is read, and
which outlines they have. A step is written as a record without unknown or repeated fields or as a
list of their values; nested scenarios are outlined with it.
-/
namespace PageCheck

namespace OutlineBody

variable {α : Type} {fields : Fields} {name : String}

inductive Optional (fields : Fields) (name : String) (reads : Json → α → Prop) :
    Option α → Prop where
  | missing (absent : fields.get? name = none) : Optional fields name reads none
  | null (empty : fields.get? name = some .null) : Optional fields name reads none
  | given {written x} (found : fields.get? name = some written) (filled : written ≠ .null)
      (stands : reads written x) : Optional fields name reads (some x)

inductive Listed (fields : Fields) (name : String) (reads : Json → List α → Prop) :
    List α → Prop where
  | missing (absent : fields.get? name = none) : Listed fields name reads []
  | given {written xs} (found : fields.get? name = some written) (stands : reads written xs) :
    Listed fields name reads xs

def Items (reads : Json → α → Prop) (written : Json) (xs : List α) : Prop :=
  ∃ items, written = .list items ∧ List.Forall₂ reads items xs

def IsMap (written : Json) (map : Fields) : Prop :=
  ∃ fields, written = .record fields ∧ map = Keyed.sorted (Json.canonicalFields fields)

theorem mapMIff {read : Json → Option α} {reads : Json → α → Prop}
    (agrees : ∀ written x, read written = some x ↔ reads written x) {items : List Json}
    {xs : List α} : items.mapM read = some xs ↔ List.Forall₂ reads items xs := by
  induction items generalizing xs with
  | nil => simp [eq_comm]
  | cons item rest ih =>
    rw [List.mapM_cons, List.forall₂_cons_left_iff]
    simp only [bind, pure, Option.bind_eq_some_iff, ih, agrees, Option.some.injEq]
    constructor
    · rintro ⟨first, stands, others, following, rfl⟩
      exact ⟨first, others, stands, following, rfl⟩
    · rintro ⟨first, others, stands, following, rfl⟩
      exact ⟨first, stands, others, following, rfl⟩

section Agrees

variable {read : Json → Option α} {reads : Json → α → Prop}
  (agrees : ∀ written x, read written = some x ↔ reads written x)

include agrees

theorem optionalIff {x : Option α} :
    optional fields name read = some x ↔ Optional fields name reads x := by
  unfold optional
  constructor
  · intro outlined
    split at outlined
    · cases outlined
      exact .missing ‹_›
    · cases outlined
      exact .null ‹_›
    · next written filled found =>
      obtain ⟨value, stands, rfl⟩ := Option.map_eq_some_iff.mp outlined
      exact .given found (fun null => filled null) ((agrees _ _).mp stands)
  · rintro (absent | empty | ⟨found, filled, stands⟩)
    · rw [absent]
    · rw [empty]
    · rw [found]
      split
      · contradiction
      · next null => exact absurd (Option.some.inj null) filled
      · next there =>
        cases there
        exact Option.map_eq_some_iff.mpr ⟨_, (agrees _ _).mpr stands, rfl⟩

theorem itemsIff {written : Json} {xs : List α} :
    items read written = some xs ↔ Items reads written xs := by
  cases written with
  | list items =>
    refine (mapMIff agrees).trans ⟨fun each => ⟨items, rfl, each⟩, ?_⟩
    rintro ⟨_, ⟨⟩, each⟩
    exact each
  | _ => exact iff_of_false nofun nofun

end Agrees

theorem listedIff {read : Json → Option (List α)} {reads : Json → List α → Prop}
    (agrees : ∀ written xs, read written = some xs ↔ reads written xs) {xs : List α} :
    listed fields name read = some xs ↔ Listed fields name reads xs := by
  unfold listed
  cases found : fields.get? name with
  | none =>
    constructor
    · rintro ⟨⟩
      exact .missing found
    · rintro (_ | ⟨there, _⟩)
      · rfl
      · cases found.symm.trans there
  | some written =>
    refine (agrees written xs).trans ⟨.given found, ?_⟩
    rintro (absent | ⟨there, stands⟩)
    · cases found.symm.trans absent
    · cases found.symm.trans there
      exact stands

theorem directiveMapIff {written : Json} {map : Fields} :
    directiveMap written = some map ↔ IsMap written map := by
  cases written with
  | record fields =>
    refine ⟨fun same => ⟨fields, rfl, (Option.some.inj same).symm⟩, ?_⟩
    rintro ⟨_, ⟨⟩, rfl⟩
    rfl
  | _ => exact iff_of_false nofun nofun

structure Reads (fields : Fields) (b : OutlineBody) : Prop where
  url : Optional fields "url" Deferred.Reads b.url
  link : Optional fields "link" Deferred.Reads b.link
  execif : Optional fields "execif" (Items (Items IsMap)) b.execif
  actions : Listed fields "actions" (Items IsMap) b.actions
  checks : Listed fields "checks" (Items IsMap) b.checks

theorem readsIff {b : OutlineBody} : ofFields fields = some b ↔ Reads fields b := by
  have maps {written : Json} {xs : List Fields} :
      items directiveMap written = some xs ↔ Items IsMap written xs :=
    itemsIff fun _ _ => directiveMapIff
  have groups {x : Option (List (List Fields))} :
      optional fields "execif" (items (items directiveMap)) = some x ↔
        Optional fields "execif" (Items (Items IsMap)) x :=
    optionalIff fun _ _ => itemsIff fun _ _ => maps
  unfold ofFields
  simp only [bind, pure, Option.bind_eq_some_iff, Option.some.injEq]
  constructor
  · rintro ⟨url, atUrl, link, atLink, execif, atGuard, actions, atActions, checks, atChecks, rfl⟩
    exact ⟨(optionalIff fun _ _ => Deferred.readsIff).mp atUrl,
      (optionalIff fun _ _ => Deferred.readsIff).mp atLink, groups.mp atGuard,
      (listedIff fun _ _ => maps).mp atActions, (listedIff fun _ _ => maps).mp atChecks⟩
  · rintro ⟨url, link, execif, actions, checks⟩
    exact ⟨_, (optionalIff fun _ _ => Deferred.readsIff).mpr url, _,
      (optionalIff fun _ _ => Deferred.readsIff).mpr link, _, groups.mpr execif, _,
      (listedIff fun _ _ => maps).mpr actions, _, (listedIff fun _ _ => maps).mpr checks, rfl⟩

end OutlineBody

inductive Step.Fielded (written : Json) : Fields → Prop where
  | named {fields : Fields} (record : written = .record fields) (known : fields.Only stepFields)
      (distinct : fields.names.Nodup) : Fielded written fields
  | placed {items} (list : written = .list items) (short : items.length ≤ stepFields.length) :
    Fielded written (stepFields.zip items)

theorem Step.recordClosedIff {written : Fields} :
    (written.all (fun field => field.1 ∈ stepFields) && Json.distinct (Keyed.names written)) =
      true ↔ Keyed.Only written stepFields ∧ (Keyed.names written).Nodup := by
  simp only [Bool.and_eq_true, List.all_eq_true, Json.distinctIff, Keyed.Only, Keyed.names,
    List.forall_mem_map, decide_eq_true_iff]

theorem Step.fieldedIff {written : Json} {fields : Fields} :
    Json.closedFields stepFields written = some fields ↔ Step.Fielded written fields := by
  cases written with
  | record written =>
    show (if _ then _ else _) = _ ↔ _
    constructor
    · intro same
      split at same
      · next holds =>
        cases same
        exact .named rfl (recordClosedIff.mp holds).1 (recordClosedIff.mp holds).2
      · cases same
    · rintro (⟨⟨⟩, known, distinct⟩ | ⟨⟨⟩, _⟩)
      exact if_pos (recordClosedIff.mpr ⟨known, distinct⟩)
  | list items =>
    show (if _ then _ else _) = _ ↔ _
    constructor
    · intro same
      split at same
      · next short =>
        cases same
        exact .placed rfl short
      · cases same
    · rintro (⟨⟨⟩, _⟩ | ⟨⟨⟩, short⟩)
      exact if_pos short
  | _ => exact iff_of_false nofun (by rintro (⟨⟨⟩, _⟩ | ⟨⟨⟩, _⟩))

mutual

inductive Outline.Reads : Json → Outline → Prop where
  | step {written body nested} {fields : Fields} (fielded : Step.Fielded written fields)
      (own : OutlineBody.Reads fields body)
      (inner : Outline.NestedReads (fields.get? "scenario") nested) : Reads written ⟨body, nested⟩

inductive Outline.NestedReads : Option Json → Option (List Outline) → Prop where
  | missing : NestedReads none none
  | null : NestedReads (some .null) none
  | given {items outlines} (each : Outline.ListReads items outlines) :
    NestedReads (some (.list items)) (some outlines)

inductive Outline.ListReads : List Json → List Outline → Prop where
  | nil : ListReads [] []
  | cons {item outline items outlines} (first : Outline.Reads item outline)
      (others : Outline.ListReads items outlines) :
    ListReads (item :: items) (outline :: outlines)

end

def Outline.Document (written : Json) (outlines : List Outline) : Prop :=
  ∃ items, written = .list items ∧ Outline.ListReads items outlines

theorem Step.nestedPlace (items : List Json) :
    Keyed.get? (stepFields.zip items) "scenario" = items[5]? := by
  rcases items with _ | ⟨_, _ | ⟨_, _ | ⟨_, _ | ⟨_, _ | ⟨_, _ | ⟨_, _⟩⟩⟩⟩⟩⟩ <;> rfl

theorem Outline.readsStep {written : Json} {o : Outline} {inner : Option (Option (List Outline))}
    (nestedIff : ∀ fields : Fields, Step.Fielded written fields → ∀ nested,
      inner = some nested ↔ Outline.NestedReads (fields.get? "scenario") nested) :
    (do
      let known ← Json.closedFields stepFields written
      let body ← OutlineBody.ofFields known
      let nested ← inner
      return ({ body, nested } : Outline)) = some o ↔ Outline.Reads written o := by
  simp only [bind, pure, Option.bind_eq_some_iff, Option.some.injEq, Step.fieldedIff]
  constructor
  · rintro ⟨known, fielded, body, own, nested, within, rfl⟩
    exact .step fielded (OutlineBody.readsIff.mp own) ((nestedIff known fielded nested).mp within)
  · rintro ⟨fielded, own, within⟩
    exact ⟨_, fielded, _, OutlineBody.readsIff.mpr own, _, (nestedIff _ fielded _).mpr within, rfl⟩

mutual

theorem Outline.readsIff : (written : Json) → (o : Outline) →
    (Outline.ofJson written = some o ↔ Outline.Reads written o)
  | .record fields, o => by
    rw [Outline.ofJson]
    refine Outline.readsStep fun known fielded nested => ?_
    cases fielded with
    | named record =>
      cases record
      exact Outline.nestedInIff fields nested
    | placed list => cases list
  | .list items, o => by
    rw [Outline.ofJson]
    refine Outline.readsStep fun known fielded nested => ?_
    cases fielded with
    | named record => cases record
    | placed list =>
      cases list
      rw [Step.nestedPlace]
      exact Outline.nestedAtIff 5 items nested
  | .null, o | .bool _, o | .number _, o | .text _, o => by
    refine iff_of_false (by simp [Outline.ofJson]) ?_
    rintro ⟨⟨⟨⟩, _⟩ | ⟨⟨⟩, _⟩, _, _⟩

theorem Outline.nestedInIff : (fields : List (String × Json)) →
    (nested : Option (List Outline)) →
    (Outline.nestedIn fields = some nested ↔
      Outline.NestedReads (Keyed.get? fields "scenario") nested)
  | [], nested => by
    rw [Outline.nestedIn]
    exact ⟨fun same => Option.some.inj same ▸ .missing, fun reads => by cases reads; rfl⟩
  | (name, value) :: rest, nested => by
    rw [Outline.nestedIn, Keyed.getCons]
    split
    · exact Outline.nestedOfIff value nested
    · exact Outline.nestedInIff rest nested

theorem Outline.nestedAtIff : (place : Nat) → (items : List Json) →
    (nested : Option (List Outline)) →
    (Outline.nestedAt place items = some nested ↔ Outline.NestedReads items[place]? nested)
  | place, [], nested => by
    rw [Outline.nestedAt]
    exact ⟨fun same => Option.some.inj same ▸ .missing, fun reads => by cases reads; rfl⟩
  | 0, value :: _, nested => by
    rw [Outline.nestedAt]
    exact Outline.nestedOfIff value nested
  | place + 1, _ :: rest, nested => by
    rw [Outline.nestedAt]
    exact Outline.nestedAtIff place rest nested

theorem Outline.nestedOfIff : (written : Json) → (nested : Option (List Outline)) →
    (Outline.nestedOf written = some nested ↔ Outline.NestedReads (some written) nested)
  | .null, nested => by
    rw [Outline.nestedOf]
    exact ⟨fun same => Option.some.inj same ▸ .null, fun reads => by cases reads; rfl⟩
  | .list items, nested => by
    rw [Outline.nestedOf, Option.map_eq_some_iff]
    constructor
    · rintro ⟨outlines, outlined, rfl⟩
      exact .given ((Outline.listIff items outlines).mp outlined)
    · intro reads
      cases reads with
      | given each => exact ⟨_, (Outline.listIff items _).mpr each, rfl⟩
  | .bool _, nested | .number _, nested | .text _, nested | .record _, nested =>
    iff_of_false (by simp [Outline.nestedOf]) nofun

theorem Outline.listIff : (items : List Json) → (outlines : List Outline) →
    (Outline.listOf items = some outlines ↔ Outline.ListReads items outlines)
  | [], outlines => by
    rw [Outline.listOf]
    exact ⟨fun same => Option.some.inj same ▸ .nil, fun reads => by cases reads; rfl⟩
  | item :: rest, outlines => by
    rw [Outline.listOf]
    simp only [bind, pure, Option.bind_eq_some_iff, Option.some.injEq]
    constructor
    · rintro ⟨first, outlined, others, following, rfl⟩
      exact .cons ((Outline.readsIff item first).mp outlined)
        ((Outline.listIff rest others).mp following)
    · rintro (_ | ⟨first, others⟩)
      exact ⟨_, (Outline.readsIff item _).mpr first, _, (Outline.listIff rest _).mpr others, rfl⟩

end

theorem Outline.documentIff {written : Json} {outlines : List Outline} :
    Outline.document written = some outlines ↔ Outline.Document written outlines := by
  cases written with
  | list items =>
    refine (Outline.listIff items outlines).trans ⟨fun each => ⟨items, rfl, each⟩, ?_⟩
    rintro ⟨_, ⟨⟩, each⟩
    exact each
  | _ => exact iff_of_false nofun nofun

end PageCheck
