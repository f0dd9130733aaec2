import PageCheck.Proofs.WrittenAssertion
import PageCheck.Yaml.Reading

/-!
Scenarios are read back from their written form. The exceptions are numbers of milliseconds that are
too large to be kept, and counts of elements that have to be absent; neither comes from a document,
and resolving brings none in.
-/
namespace PageCheck

def Guard.isWritable (g : Guard) : Bool := g.all fun group => group.all Condition.isWritable

def StepBody.isWritable (b : StepBody) : Bool :=
  b.execif.all Guard.isWritable && b.actions.all (fun a => fitsTimeout a.timeout) &&
    b.checks.all Assertion.isWritable

mutual

def Step.isWritable : Step → Bool
  | ⟨body, nested⟩ => body.isWritable && Step.isWritableNested nested

def Step.isWritableNested : Option (List Step) → Bool
  | none => true
  | some steps => Step.isWritableList steps

def Step.isWritableList : List Step → Bool
  | [] => true
  | step :: rest => step.isWritable && Step.isWritableList rest

end

def Scenario.isWritable (s : Scenario) : Bool := Step.isWritableList s

@[simp]
theorem Json.foundNonempty (name other : String) (items : List Json) :
    Keyed.get? (Json.nonempty name items) other =
      if name = other then (if items.isEmpty then none else some (.list items)) else none := by
  unfold Json.nonempty
  split
  · simp [Keyed.getNil]
  · simp [Keyed.getCons, Keyed.getNil]

theorem Json.namesNonempty (name : String) (items : List Json) :
    (Keyed.names (Json.nonempty name items)).Sublist [name] := by
  unfold Json.nonempty
  split
  · exact List.nil_sublist _
  · exact List.Sublist.refl _

namespace Step

@[simp]
theorem foundNested (nested : Option (List Step)) (name : String) :
    Keyed.get? (writtenNested nested) name =
      if "scenario" = name then nested.map fun steps => .list (listToJson steps) else none := by
  cases nested <;> simp [writtenNested, Keyed.getCons, Keyed.getNil]

theorem namesNested (nested : Option (List Step)) :
    (Keyed.names (writtenNested nested)).Sublist ["scenario"] := by
  cases nested with
  | none => rw [writtenNested]; exact List.nil_sublist _
  | some steps => rw [writtenNested]; exact List.Sublist.refl _

theorem fieldsClosed (body : StepBody) (nested : Option (List Step)) :
    Json.closedFields stepFields (.record (body.written ++ writtenNested nested)) =
      some (body.written ++ writtenNested nested) := by
  have names : (Keyed.names (body.written ++ writtenNested nested)).Sublist stepFields := by
    unfold StepBody.written
    simp only [Keyed.names, List.map_append]
    exact (((((Json.namesOptional "url" _).append (Json.namesOptional "link" _)).append
      (Json.namesOptional "execif" _)).append (Json.namesNonempty "actions" _)).append
      (Json.namesNonempty "checks" _)).append (namesNested nested)
  have known : (body.written ++ writtenNested nested).all (fun field => field.1 ∈ stepFields) =
      true := by
    rw [List.all_eq_true]
    intro field member
    exact decide_eq_true (names.subset (List.mem_map_of_mem member))
  have distinct : Json.distinct (Keyed.names (body.written ++ writtenNested nested)) = true :=
    (Json.distinctIff _).mpr (names.nodup (by decide))
  exact if_pos (by rw [known, distinct]; rfl)

end Step

namespace OutlineBody

theorem directiveMapCanonical (fields : Fields) :
    directiveMap (Json.canonical (.record fields)) =
      some (Keyed.sorted (Json.canonicalFields fields)) := by
  show some (Keyed.sorted (Json.canonicalFields (Keyed.sorted (Json.canonicalFields fields)))) = _
  rw [Json.canonicalFieldsSorted, Json.canonicalFieldsTwice, Keyed.sortedTwice]

theorem itemsWritten {α β : Type} {read : Json → Option β} {write : α → Json} {outline : α → β}
    (known : ∀ part, read (write part) = some (outline part)) (parts : List α) :
    items read (.list (parts.map write)) = some (parts.map outline) := by
  show (parts.map write).mapM read = _
  induction parts with
  | nil => rfl
  | cons part rest ih =>
    rw [List.map_cons, List.mapM_cons, known, ih]
    rfl

end OutlineBody

def Action.outline (a : Action) : Fields := Keyed.sorted (Json.canonicalFields a.written)

def Assertion.outline (a : Assertion) : Fields := Keyed.sorted (Json.canonicalFields a.written)

def Condition.outline (c : Condition) : Fields := Keyed.sorted (Json.canonicalFields c.written)

theorem Action.outlined (a : Action) : OutlineBody.directiveMap a.toJson = some a.outline :=
  OutlineBody.directiveMapCanonical a.written

theorem Assertion.outlined (a : Assertion) : OutlineBody.directiveMap a.toJson = some a.outline :=
  OutlineBody.directiveMapCanonical a.written

theorem Condition.outlined (c : Condition) :
    OutlineBody.directiveMap c.toJson = some c.outline := by
  rw [c.toJsonWritten]
  exact OutlineBody.directiveMapCanonical c.written

def StepBody.outline (b : StepBody) : OutlineBody where
  url := b.url
  link := b.link
  execif := b.execif.map fun groups => groups.map fun group => group.map Condition.outline
  actions := b.actions.map Action.outline
  checks := b.checks.map Assertion.outline

namespace OutlineBody

variable {fields : Fields} {name : String}

theorem optionalWritten {α : Type} [Slot α] [LawfulSlot α] {value : Option (Deferred α)}
    (found : fields.get? name = value.map Deferred.toJson) :
    optional fields name Deferred.ofJson = some value := by
  unfold optional
  rw [found]
  cases value with
  | none => rfl
  | some d =>
    have read := d.rereads.1
    rw [Option.map_some]
    split
    · next none => cases none
    · next null => exact absurd (Option.some.inj null) d.notNull
    · next written there =>
      cases there
      rw [read]
      rfl

theorem guardWritten {value : Option Guard} (found : fields.get? name = value.map Guard.toJson) :
    optional fields name (items (items directiveMap)) =
      some (value.map fun groups => groups.map fun group => group.map Condition.outline) := by
  unfold optional
  rw [found]
  cases value with
  | none => rfl
  | some g =>
    have read : items (items directiveMap) g.toJson =
        some (g.map fun group => group.map Condition.outline) :=
      itemsWritten (itemsWritten Condition.outlined) g
    show (items (items directiveMap) g.toJson).map some = _
    rw [read]
    rfl

theorem listedWritten {α : Type} {write : α → Json} {outline : α → Fields}
    (known : ∀ part, directiveMap (write part) = some (outline part)) {parts : List α}
    (found : fields.get? name = Keyed.get? (Json.nonempty name (parts.map write)) name) :
    listed fields name (items directiveMap) = some (parts.map outline) := by
  unfold listed
  rw [found, Json.foundNonempty, if_pos rfl]
  cases parts with
  | nil => rfl
  | cons part rest => exact itemsWritten known (part :: rest)

theorem ofWritten (b : StepBody) (nested : Option (List Step)) :
    ofFields (b.written ++ Step.writtenNested nested) = some b.outline := by
  have url : optional (b.written ++ Step.writtenNested nested) "url" Deferred.ofJson = some b.url :=
    optionalWritten (by simp [StepBody.written])
  have link : optional (b.written ++ Step.writtenNested nested) "link" Deferred.ofJson =
      some b.link := optionalWritten (by simp [StepBody.written])
  have execif : optional (b.written ++ Step.writtenNested nested) "execif"
      (items (items directiveMap)) = some b.outline.execif :=
    guardWritten (by simp [StepBody.written])
  have actions : listed (b.written ++ Step.writtenNested nested) "actions" (items directiveMap) =
      some b.outline.actions :=
    listedWritten Action.outlined (by simp [StepBody.written])
  have checks : listed (b.written ++ Step.writtenNested nested) "checks" (items directiveMap) =
      some b.outline.checks :=
    listedWritten Assertion.outlined (by simp [StepBody.written])
  unfold ofFields
  rw [url, link, execif, actions, checks]
  rfl

end OutlineBody

theorem Outline.nestedInFound (fields : Fields) :
    Outline.nestedIn fields = match fields.get? "scenario" with
      | none => some none
      | some value => Outline.nestedOf value := by
  induction fields with
  | nil => rfl
  | cons field rest ih =>
    obtain ⟨name, value⟩ := field
    rw [Outline.nestedIn, Keyed.getCons, ih]
    split <;> rfl

theorem Outline.nestedInWritten (body : StepBody) (nested : Option (List Step)) :
    Outline.nestedIn (body.written ++ Step.writtenNested nested) =
      match nested with
      | none => some none
      | some steps => Outline.nestedOf (.list (Step.listToJson steps)) := by
  have found : Keyed.get? (body.written ++ Step.writtenNested nested) "scenario" =
      nested.map fun steps => .list (Step.listToJson steps) := by
    simp [StepBody.written]
  rw [Outline.nestedInFound, found]
  cases nested <;> rfl

theorem readAllOutlines {α β : Type} {read : β → Except Fault α} {outline : α → β} {parts : List α}
    (known : ∀ part ∈ parts, read (outline part) = .ok part) :
    readAll read (parts.map outline) = .ok parts := by
  induction parts with
  | nil => rfl
  | cons part rest ih =>
    rw [List.map_cons, readAll, known part List.mem_cons_self,
      ih fun later inside => known later (List.mem_cons_of_mem _ inside)]
    rfl

theorem Guard.rereads (g : Guard) (writable : g.isWritable = true) :
    Guard.ofOutline (g.map fun group => group.map Condition.outline) = .ok g := by
  refine readAllOutlines fun group inGuard => readAllOutlines fun c inGroup => ?_
  exact c.rereads (List.all_eq_true.mp (List.all_eq_true.mp writable group inGuard) c inGroup)

theorem StepBody.rereads (b : StepBody) (writable : b.isWritable = true) :
    StepBody.ofOutline b.outline = .ok b := by
  simp only [StepBody.isWritable, Bool.and_eq_true, List.all_eq_true] at writable
  obtain ⟨⟨guard, inTime⟩, checkable⟩ := writable
  have actions : readAll Action.ofFields b.outline.actions = .ok b.actions :=
    readAllOutlines fun a member => a.rereads (inTime a member)
  have checks : readAll Assertion.ofFields b.outline.checks = .ok b.checks :=
    readAllOutlines fun a member => a.rereads (checkable a member)
  obtain ⟨url, link, execif, _, _⟩ := b
  unfold StepBody.ofOutline
  rw [actions, checks]
  cases execif with
  | none => rfl
  | some g =>
    have read := g.rereads guard
    show (do let execif ← some <$> Guard.ofOutline (g.map _); _) = _
    rw [read]
    rfl

mutual

theorem Step.rereads : (s : Step) → s.isWritable = true →
    ∃ o, Outline.ofJson s.toJson = some o ∧ Step.ofOutline o = .ok s
  | ⟨body, nested⟩, writable => by
    rw [Step.isWritable, Bool.and_eq_true] at writable
    obtain ⟨inner, outlined, read⟩ := Step.rereadsNested body nested writable.2
    refine ⟨⟨body.outline, inner⟩, ?_, ?_⟩
    · rw [Step.toJson, Outline.ofJson, Step.fieldsClosed, outlined]
      show (OutlineBody.ofFields (body.written ++ Step.writtenNested nested)).bind _ = _
      rw [OutlineBody.ofWritten]
      rfl
    · rw [Step.ofOutline]
      exact bindOk.mpr ⟨body, body.rereads writable.1, mapOk.mpr ⟨nested, read, rfl⟩⟩

theorem Step.rereadsNested (body : StepBody) : (nested : Option (List Step)) →
    Step.isWritableNested nested = true →
    ∃ inner, Outline.nestedIn (body.written ++ Step.writtenNested nested) = some inner ∧
      Step.ofNestedOutline inner = .ok nested
  | none, _ => ⟨none, Outline.nestedInWritten body none, by rw [Step.ofNestedOutline]⟩
  | some steps, writable => by
    rw [Step.isWritableNested] at writable
    obtain ⟨outlines, outlined, read⟩ := Step.rereadsList steps writable
    refine ⟨some outlines, ?_, ?_⟩
    · rw [Outline.nestedInWritten]
      show Outline.nestedOf (.list (Step.listToJson steps)) = _
      rw [Outline.nestedOf, outlined]
      rfl
    · rw [Step.ofNestedOutline]
      exact mapOk.mpr ⟨steps, read, rfl⟩

theorem Step.rereadsList : (steps : List Step) → Step.isWritableList steps = true →
    ∃ outlines, Outline.listOf (Step.listToJson steps) = some outlines ∧
      Step.ofOutlines outlines = .ok steps
  | [], _ => ⟨[], by rw [Step.listToJson, Outline.listOf], by rw [Step.ofOutlines]⟩
  | step :: rest, writable => by
    rw [Step.isWritableList, Bool.and_eq_true] at writable
    obtain ⟨first, outlined, read⟩ := Step.rereads step writable.1
    obtain ⟨others, othersOutlined, othersRead⟩ := Step.rereadsList rest writable.2
    refine ⟨first :: others, ?_, ?_⟩
    · rw [Step.listToJson, Outline.listOf, outlined, othersOutlined]
      rfl
    · rw [Step.ofOutlines]
      exact bindOk.mpr ⟨step, read, mapOk.mpr ⟨rest, othersRead, rfl⟩⟩

end

theorem Scenario.rereads (source : Source) (reason : String) (s : Scenario)
    (writable : s.isWritable = true) : Scenario.ofJson source reason s.toJson = .ok s := by
  obtain ⟨outlines, outlined, read⟩ := Step.rereadsList s writable
  have document : Outline.document s.toJson = some outlines := outlined
  unfold Scenario.ofJson
  rw [document]
  show (Step.ofOutlines outlines).mapError Failure.scenario = _
  rw [read]
  rfl

theorem readAllGives {α β : Type} {read : α → Except Fault β} {P : β → Prop}
    (gives : ∀ part result, read part = .ok result → P result) {parts : List α}
    {results : List β} (all : readAll read parts = .ok results) : ∀ result ∈ results, P result := by
  induction parts generalizing results with
  | nil =>
    cases all
    exact fun _ member => nomatch member
  | cons part rest ih =>
    obtain ⟨first, atPart, all⟩ := bindOk.mp all
    obtain ⟨others, atRest, rfl⟩ := mapOk.mp all
    exact List.forall_mem_cons.mpr ⟨gives part first atPart, ih atRest⟩

theorem resolveItemsKeeps {α : Type} {resolve : α → Except Failure α} {P : α → Prop}
    (keeps : ∀ item resolved, resolve item = .ok resolved → P item → P resolved)
    {items resolved : List α} (all : resolveItems resolve items = .ok resolved)
    (held : ∀ item ∈ items, P item) : ∀ item ∈ resolved, P item := by
  induction items generalizing resolved with
  | nil =>
    cases all
    exact fun _ member => nomatch member
  | cons item rest ih =>
    obtain ⟨first, atItem, all⟩ := bindOk.mp all
    obtain ⟨others, atRest, rfl⟩ := mapOk.mp all
    obtain ⟨here, later⟩ := List.forall_mem_cons.mp held
    exact List.forall_mem_cons.mpr ⟨keeps item first atItem here, ih atRest later⟩

theorem Guard.writableIff {g : Guard} :
    g.isWritable = true ↔ ∀ group ∈ g, ∀ c ∈ group, c.isWritable = true := by
  simp only [Guard.isWritable, List.all_eq_true]

theorem Guard.readWritable {groups : List (List Fields)} {g : Guard}
    (read : Guard.ofOutline groups = .ok g) : g.isWritable = true :=
  Guard.writableIff.mpr
    (readAllGives (fun _ _ => readAllGives fun _ _ => Condition.readWritable) read)

theorem Guard.resolvedWritable {m : Mapping} {g resolved : Guard}
    (found : g.resolve m = .ok resolved) (writable : g.isWritable = true) :
    resolved.isWritable = true :=
  Guard.writableIff.mpr (resolveItemsKeeps
    (fun _ _ => resolveItemsKeeps fun _ _ => Condition.resolvedWritable) found
    (Guard.writableIff.mp writable))

theorem StepBody.writableIff {b : StepBody} : b.isWritable = true ↔
    (∀ g ∈ b.execif, g.isWritable = true) ∧ (∀ a ∈ b.actions, fitsTimeout a.timeout = true) ∧
      ∀ a ∈ b.checks, a.isWritable = true := by
  simp only [StepBody.isWritable, Bool.and_eq_true, List.all_eq_true, Option.all_eq_true,
    Option.mem_def, and_assoc]

theorem StepBody.readWritable {o : OutlineBody} {b : StepBody}
    (read : StepBody.ofOutline o = .ok b) : b.isWritable = true := by
  obtain ⟨url, link, groups, actions, checks⟩ := o
  -- the guard may be missing; what is read after it is the same
  have afterGuard {execif : Option Guard} (guarded : ∀ g ∈ execif, g.isWritable = true)
      (read : (do
        let actions ← readAll Action.ofFields actions
        let checks ← readAll Assertion.ofFields checks
        return StepBody.mk url link execif actions checks) = .ok b) : b.isWritable = true := by
    obtain ⟨actions', atActions, read⟩ := bindOk.mp read
    obtain ⟨checks', atChecks, rfl⟩ := mapOk.mp read
    exact StepBody.writableIff.mpr ⟨guarded,
      readAllGives (fun _ _ => Action.readFits) atActions,
      readAllGives (fun _ _ => Assertion.readWritable) atChecks⟩
  cases groups with
  | none =>
    refine afterGuard (fun g member => ?_) read
    cases member
  | some groups =>
    obtain ⟨execif, atGuard, read⟩ := bindOk.mp read
    refine afterGuard (fun g member => ?_) read
    obtain ⟨guard, guarded, rfl⟩ := mapsOk atGuard
    cases member
    exact Guard.readWritable guarded

theorem StepBody.resolvedWritable {m : Mapping} {b resolved : StepBody}
    (found : b.resolve m = .ok resolved) (writable : b.isWritable = true) :
    resolved.isWritable = true := by
  obtain ⟨guarded, inTime, checkable⟩ := StepBody.writableIff.mp writable
  obtain ⟨url, _, found⟩ := bindOk.mp found
  obtain ⟨link, _, found⟩ := bindOk.mp found
  obtain ⟨execif, atGuard, found⟩ := bindOk.mp found
  obtain ⟨actions, atActions, found⟩ := bindOk.mp found
  obtain ⟨checks, atChecks, rfl⟩ := mapOk.mp found
  refine StepBody.writableIff.mpr ⟨?_,
    resolveItemsKeeps (fun _ _ => Action.resolvedFits) atActions inTime,
    resolveItemsKeeps (fun _ _ => Assertion.resolvedWritable) atChecks checkable⟩
  rintro g rfl
  cases before : b.execif with
  | none =>
    rw [before] at atGuard
    cases atGuard
  | some part =>
    rw [before] at atGuard
    obtain ⟨_, resolved, same⟩ := mapOk.mp atGuard
    cases same
    exact Guard.resolvedWritable resolved (guarded part before)

mutual

theorem Step.readWritable : (o : Outline) → {s : Step} → Step.ofOutline o = .ok s →
    s.isWritable = true
  | ⟨body, nested⟩, s, read => by
    rw [Step.ofOutline] at read
    obtain ⟨body', atBody, read⟩ := bindOk.mp read
    obtain ⟨nested', atNested, rfl⟩ := mapOk.mp read
    rw [Step.isWritable, StepBody.readWritable atBody, Step.readWritableNested nested atNested]
    rfl

theorem Step.readWritableNested : (nested : Option (List Outline)) →
    {read : Option (List Step)} → Step.ofNestedOutline nested = .ok read →
    Step.isWritableNested read = true
  | none, _, read => by
    rw [Step.ofNestedOutline] at read
    cases read
    rw [Step.isWritableNested]
  | some outlines, _, read => by
    rw [Step.ofNestedOutline] at read
    obtain ⟨steps, atSteps, rfl⟩ := mapOk.mp read
    rw [Step.isWritableNested, Step.readWritableList outlines atSteps]

theorem Step.readWritableList : (outlines : List Outline) → {steps : List Step} →
    Step.ofOutlines outlines = .ok steps → Step.isWritableList steps = true
  | [], _, read => by
    rw [Step.ofOutlines] at read
    cases read
    rw [Step.isWritableList]
  | outline :: rest, _, read => by
    rw [Step.ofOutlines] at read
    obtain ⟨first, atFirst, read⟩ := bindOk.mp read
    obtain ⟨others, atRest, rfl⟩ := mapOk.mp read
    rw [Step.isWritableList, Step.readWritable outline atFirst, Step.readWritableList rest atRest]
    rfl

end

mutual

theorem Step.resolvedWritable (m : Mapping) : (s : Step) → {resolved : Step} →
    s.resolve m = .ok resolved → s.isWritable = true → resolved.isWritable = true
  | ⟨body, nested⟩, _, found, writable => by
    rw [Step.resolve] at found
    rw [Step.isWritable, Bool.and_eq_true] at writable
    obtain ⟨body', atBody, found⟩ := bindOk.mp found
    obtain ⟨nested', atNested, rfl⟩ := mapOk.mp found
    rw [Step.isWritable, StepBody.resolvedWritable atBody writable.1,
      Step.resolvedWritableNested m nested atNested writable.2]
    rfl

theorem Step.resolvedWritableNested (m : Mapping) : (nested : Option (List Step)) →
    {resolved : Option (List Step)} → Step.resolveNested m nested = .ok resolved →
    Step.isWritableNested nested = true → Step.isWritableNested resolved = true
  | none, _, found, _ => by
    rw [Step.resolveNested] at found
    cases found
    rw [Step.isWritableNested]
  | some steps, _, found, writable => by
    rw [Step.resolveNested] at found
    rw [Step.isWritableNested] at writable
    obtain ⟨steps', atSteps, rfl⟩ := mapOk.mp found
    rw [Step.isWritableNested, Step.resolvedWritableList m steps atSteps writable]

theorem Step.resolvedWritableList (m : Mapping) : (steps : List Step) → {resolved : List Step} →
    Step.resolveList m steps = .ok resolved → Step.isWritableList steps = true →
    Step.isWritableList resolved = true
  | [], _, found, _ => by
    rw [Step.resolveList] at found
    cases found
    rw [Step.isWritableList]
  | step :: rest, _, found, writable => by
    rw [Step.resolveList] at found
    rw [Step.isWritableList, Bool.and_eq_true] at writable
    obtain ⟨first, atFirst, found⟩ := bindOk.mp found
    obtain ⟨others, atRest, rfl⟩ := mapOk.mp found
    rw [Step.isWritableList, Step.resolvedWritable m step atFirst writable.1,
      Step.resolvedWritableList m rest atRest writable.2]
    rfl

end

namespace Scenario

theorem readWritable {source : Source} {reason : String} {document : Json} {s : Scenario}
    (read : Scenario.ofJson source reason document = .ok s) : s.isWritable = true := by
  unfold Scenario.ofJson at read
  split at read
  · cases read
  · next outlines _ => exact Step.readWritableList outlines (mapErrorOk read)

theorem textWritable [Readers] {text : String} {s : Scenario}
    (read : Scenario.ofText text = .ok s ∨ Scenario.ofYaml text = .ok s) :
    s.isWritable = true := by
  rcases read with json | yaml
  · unfold Scenario.ofText at json
    split at json
    · cases json
    · exact readWritable json
  · unfold Scenario.ofYaml at yaml
    split at yaml
    · cases yaml
    · exact readWritable yaml

/-- Exactly the scenarios without a lost count and without a timeout that is too large are read
back from their written form; those that are read or resolved are among them, and they are told
apart by their written forms. -/
theorem writtenAndReread :
    (∀ (source : Source) (reason : String) (s : Scenario),
      Scenario.ofJson source reason s.toJson = .ok s ↔ s.isWritable = true) ∧
    (∀ [Readers] (text : String) (s : Scenario),
      Scenario.ofText text = .ok s ∨ Scenario.ofYaml text = .ok s → s.isWritable = true) ∧
    (∀ (m : Mapping) (s resolved : Scenario), Scenario.resolve m s = .ok resolved →
      s.isWritable = true → resolved.isWritable = true) ∧
    ∀ s t : Scenario, s.isWritable = true → t.isWritable = true → s.toJson = t.toJson → s = t := by
  refine ⟨fun source reason s => ⟨readWritable, s.rereads source reason⟩, fun _ _ => textWritable,
    fun m s _ => Step.resolvedWritableList m s, fun s t writable writable' same => ?_⟩
  have first := s.rereads .json "" writable
  rw [same, t.rereads .json "" writable'] at first
  exact (Except.ok.inj first).symm

def nestedReference (demand : Demand) : Scenario :=
  [{ body := { StepBody.empty with
       execif := some [[.flag (.value true)]],
       actions := [{ deed := .alert .accept, timeout := some Json.maxNatural }] },
     nested := some [.checking [{ demand, timeout := none }]] }]

def absentReference (count : Option UInt64) : Demand :=
  .absent { target := .reference { key := "a", append := [.reference "b" [.literal "c"]] }, count }

theorem writtenAndRereadNested :
    Scenario.ofJson .json "" (Scenario.toJson (nestedReference (absentReference none))) =
      .ok (nestedReference (absentReference none)) ∧
    Scenario.ofJson .json "" (Scenario.toJson (nestedReference (absentReference (some 0)))) ≠
      .ok (nestedReference (absentReference (some 0))) := by
  refine ⟨(writtenAndReread.1 .json "" _).mpr (by decide), fun read => ?_⟩
  have writable := (writtenAndReread.1 .json "" _).mp read
  exact absurd writable (by decide)

end Scenario

end PageCheck
