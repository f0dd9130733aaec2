import PageCheck.Proofs.ReadingStages
import PageCheck.Proofs.ScenarioText
import PageCheck.Proofs.SpelledOut

/-!
How deep a scenario is nested that is written out again. A reader takes documents of so many nested
containers only. A document that is at the limit may be shown with one container more, as shorthands
are written out, and is refused then.
-/
namespace PageCheck

/-- A part of a document, the same part written out, and how it is shown. One level more is enough to
write it out, and it is shown within the room that it needs when it is written out. -/
structure SpelledAs (room : Nat) (written spelled shown : Json) : Prop where
  oneMore : spelled.depth ≤ written.depth + 1
  alike : shown.depth ≤ room ↔ spelled.depth ≤ room

structure PartsSpelledAs (room outer : Nat) (spelled shown : List Json) : Prop where
  oneMore : ∀ part ∈ spelled, part.depth ≤ outer
  alike : (∀ part ∈ shown, part.depth ≤ room) ↔ ∀ part ∈ spelled, part.depth ≤ room

namespace PartsSpelledAs

variable {room outer : Nat} {spelled shown spelled' shown' : List Json}

theorem nil : PartsSpelledAs room outer [] [] := ⟨nofun, Iff.rfl⟩

theorem one {written one other : Json} (part : SpelledAs room written one other)
    (inside : written.depth < outer) : PartsSpelledAs room outer [one] [other] where
  oneMore := List.forall_mem_singleton.mpr (Nat.le_trans part.oneMore inside)
  alike := by rw [List.forall_mem_singleton, List.forall_mem_singleton, part.alike]

theorem append (first : PartsSpelledAs room outer spelled shown)
    (others : PartsSpelledAs room outer spelled' shown') :
    PartsSpelledAs room outer (spelled ++ spelled') (shown ++ shown') where
  oneMore := List.forall_mem_append.mpr ⟨first.oneMore, others.oneMore⟩
  alike := by rw [List.forall_mem_append, List.forall_mem_append, first.alike, others.alike]

theorem same (inside : ∀ part ∈ spelled, part.depth ≤ outer) :
    PartsSpelledAs room outer spelled spelled := ⟨inside, Iff.rfl⟩

theorem mapped {α β : Type} {reads : Json → α → Prop} {stands : α → β → Prop} {spell : α → Json}
    {render : β → Json} {items : List Json} {xs : List α} {ys : List β}
    (read : List.Forall₂ reads items xs) (found : List.Forall₂ stands xs ys)
    (inside : ∀ item ∈ items, item.depth < outer)
    (each : ∀ item ∈ items, ∀ x y, reads item x → stands x y →
      SpelledAs room item (spell x) (render y)) :
    PartsSpelledAs room outer (xs.map spell) (ys.map render) := by
  induction read generalizing ys with
  | nil =>
    cases found
    exact nil
  | cons first _ ih =>
    cases found with
    | cons last others =>
      rw [List.forall_mem_cons] at inside each
      exact (one (each.1 _ _ first last) inside.1).append (ih others inside.2 each.2)

end PartsSpelledAs

theorem SpelledAs.list {room : Nat} {written : Json} {spelled shown : List Json}
    (parts : PartsSpelledAs (room - 1) written.depth spelled shown) :
    SpelledAs room written (.list spelled) (.list shown) where
  oneMore := Json.listWithin.mpr ⟨Nat.succ_pos _, parts.oneMore⟩
  alike := by rw [Json.listWithin, Json.listWithin, parts.alike]

theorem SpelledAs.record {room : Nat} {written : Json} {spelled shown : Fields}
    (parts : PartsSpelledAs (room - 1) written.depth (spelled.map (·.2)) (shown.map (·.2))) :
    SpelledAs room written (.record spelled) (.record shown) where
  oneMore := Json.recordWithin.mpr ⟨Nat.succ_pos _, List.forall_mem_map.mp parts.oneMore⟩
  alike := by
    have alike := parts.alike
    rw [List.forall_mem_map, List.forall_mem_map] at alike
    rw [Json.recordWithin, Json.recordWithin, alike]

def Directive.spelledMap (map : Fields) : Json := .record (spelledOut map)

def OutlineBody.spelledOut (b : OutlineBody) : Fields :=
  Json.optional "url" (b.url.map Deferred.toJson) ++
  Json.optional "link" (b.link.map Deferred.toJson) ++
  Json.optional "execif" (b.execif.map fun groups =>
    .list (groups.map fun group => .list (group.map Directive.spelledMap))) ++
  Json.nonempty "actions" (b.actions.map Directive.spelledMap) ++
  Json.nonempty "checks" (b.checks.map Directive.spelledMap)

mutual

def Outline.spelledOut : Outline → Json
  | ⟨body, nested⟩ => .record (body.spelledOut ++ Outline.nestedSpelledOut nested)

def Outline.nestedSpelledOut : Option (List Outline) → Fields
  | none => []
  | some outlines => [("scenario", .list (Outline.itemsSpelledOut outlines))]

def Outline.itemsSpelledOut : List Outline → List Json
  | [] => []
  | outline :: rest => outline.spelledOut :: Outline.itemsSpelledOut rest

end

def Outline.documentSpelledOut (outlines : List Outline) : Json :=
  .list (Outline.itemsSpelledOut outlines)

theorem OutlineBody.mapDistinct {written : Json} {map : Fields} (isMap : IsMap written map) :
    map.names.Nodup := by
  obtain ⟨fields, _, rfl⟩ := isMap
  exact (Keyed.sortedIncreasing (Json.canonicalFields fields)).distinct

theorem OutlineBody.mapSpelledAs {written shown : Json} {map : Fields} {room : Nat}
    (isMap : IsMap written map) (fits : written.depth ≤ room)
    (alike : map.names.Nodup → (Json.record map).depth ≤ room →
      (shown.depth ≤ room ↔ (Directive.spelledMap map).depth ≤ room)) :
    SpelledAs room written (Directive.spelledMap map) shown := by
  have distinct := mapDistinct isMap
  obtain ⟨fields, rfl, rfl⟩ := isMap
  have shallower := Json.canonicalShallower (.record fields)
  exact ⟨Nat.le_trans (Directive.spelledOneMore _) (Nat.succ_le_succ shallower),
    alike distinct (Nat.le_trans shallower fits)⟩

theorem OutlineBody.itemsSpelledAs {α β : Type} {reads : Json → α → Prop} {stands : α → β → Prop}
    {spell : α → Json} {render : β → Json} {written : Json} {xs : List α} {ys : List β} {room : Nat}
    (read : Items reads written xs) (found : List.Forall₂ stands xs ys) (fits : written.depth ≤ room)
    (each : ∀ item x y, reads item x → stands x y → item.depth ≤ room - 1 →
      SpelledAs (room - 1) item (spell x) (render y)) :
    SpelledAs room written (.list (xs.map spell)) (.list (ys.map render)) := by
  obtain ⟨items, rfl, read⟩ := read
  have within := (Json.listWithin.mp fits).2
  exact .list (.mapped read found (fun _ => Json.itemBelow)
    fun item member x y reads stands => each item x y reads stands (within item member))

theorem Step.fieldedBelow {written : Json} {fields : Fields}
    (fielded : Step.Fielded written fields) :
    0 < written.depth ∧ ∀ field ∈ fields, field.2.depth < written.depth := by
  cases fielded with
  | named record =>
    subst record
    exact ⟨Nat.succ_pos _, fun field => Json.fieldBelow⟩
  | placed list =>
    subst list
    refine ⟨Nat.succ_pos _, ?_⟩
    rintro ⟨name, item⟩ member
    exact Json.itemBelow (List.of_mem_zip member).2

namespace OutlineBody

variable {fields : Fields} {name : String} {room outer : Nat}
  (inside : ∀ field ∈ fields, field.2.depth < outer)
  (fits : ∀ field ∈ fields, field.2.depth ≤ room)

include inside

theorem deferredSpelledAs {α : Type} [Slot α] [LevelSlot α] {value : Option (Deferred α)}
    (reads : Optional fields name Deferred.Reads value) :
    PartsSpelledAs room outer
      ((Json.optional name (value.map Deferred.toJson)).map (·.2))
      ((Json.optional name (value.map Deferred.toJson)).map (·.2)) := by
  refine .same (List.forall_mem_map.mpr ?_)
  cases reads with
  | missing | null => nofun
  | given found _ stands =>
    refine List.forall_mem_singleton.mpr (Nat.le_of_lt (Nat.lt_of_le_of_lt
      (Deferred.keepsDepth stands).within ?_))
    exact inside _ (Keyed.memberOfFound found)

include fits

theorem guardSpelledAs {groups : Option (List (List Fields))} {guard : Option Guard}
    (reads : Optional fields name (Items (Items IsMap)) groups)
    (found : Option.Rel (List.Forall₂ (List.Forall₂ fun map c => Condition.ofFields map = .ok c))
      groups guard) :
    PartsSpelledAs room outer
      ((Json.optional name (groups.map fun groups =>
        .list (groups.map fun group => .list (group.map Directive.spelledMap)))).map (·.2))
      ((Json.optional name (guard.map Guard.toJson)).map (·.2)) := by
  cases found with
  | none => exact .nil
  | some found =>
    cases reads with
    | given there _ reads =>
      have member := Keyed.memberOfFound there
      refine .one ?_ (inside _ member)
      refine itemsSpelledAs reads found (fits _ member) fun _ _ _ reads found fits => ?_
      refine itemsSpelledAs reads found fits fun _ _ _ isMap read fits => ?_
      exact mapSpelledAs isMap fits fun distinct => Condition.spells distinct read

theorem listedSpelledAs {α : Type} {maps : List Fields} {parts : List α}
    {stands : Fields → α → Prop} {render : α → Json}
    (reads : Listed fields name (Items IsMap) maps) (found : List.Forall₂ stands maps parts)
    (each : ∀ map part, stands map part → map.names.Nodup →
      (Json.record map).depth ≤ room - 1 →
        ((render part).depth ≤ room - 1 ↔ (Directive.spelledMap map).depth ≤ room - 1)) :
    PartsSpelledAs room outer
      ((Json.nonempty name (maps.map Directive.spelledMap)).map (·.2))
      ((Json.nonempty name (parts.map render)).map (·.2)) := by
  cases reads with
  | missing =>
    cases found
    exact .nil
  | given there reads =>
    have member := Keyed.memberOfFound there
    have spelled : SpelledAs room _ (.list (maps.map Directive.spelledMap))
        (.list (parts.map render)) :=
      itemsSpelledAs reads found (fits _ member) fun _ map part isMap read fits =>
        mapSpelledAs isMap fits (each map part read)
    cases found with
    | nil => exact .nil
    | cons => exact .one spelled (inside _ member)

theorem spelledAs {o : OutlineBody} {b : StepBody} (odd : room % 2 = 1) (reads : Reads fields o)
    (read : StepBody.ReadFrom o b) :
    PartsSpelledAs room outer (o.spelledOut.map (·.2)) (b.written.map (·.2)) := by
  unfold spelledOut StepBody.written
  simp only [List.map_append]
  rw [read.url, read.link]
  refine ((((deferredSpelledAs inside reads.url).append (deferredSpelledAs inside reads.link)).append
    (guardSpelledAs inside fits reads.execif read.execif)).append ?_).append ?_
  · exact listedSpelledAs inside fits reads.actions read.actions fun _ _ read distinct =>
      Action.spells distinct read (by omega)
  · exact listedSpelledAs inside fits reads.checks read.checks fun _ _ read distinct =>
      Assertion.spells distinct read

end OutlineBody

mutual

theorem Outline.spelledAs : (o : Outline) → ∀ {written : Json} {s : Step} {room : Nat},
    room % 2 = 0 → written.depth ≤ room → Outline.Reads written o → Step.ReadFrom o s →
    SpelledAs room written o.spelledOut s.toJson
  | ⟨body, nested⟩, written, s, room, even, fits, reads, found => by
    cases reads with
    | step fielded own inner =>
      cases found with
      | step read steps =>
        obtain ⟨positive, inside⟩ := Step.fieldedBelow fielded
        have below := fun field member => Nat.le_pred_of_lt
          (Nat.lt_of_lt_of_le (inside field member) fits)
        -- an even room is left for each step, and so for each of its directive maps
        have odd : (room - 1) % 2 = 1 := by omega
        rw [Outline.spelledOut, Step.toJson]
        refine .record ?_
        rw [List.map_append, List.map_append]
        exact (OutlineBody.spelledAs inside below odd own read).append
          (Outline.nestedSpelledAs nested odd (fun _ found => below _ (Keyed.memberOfFound found))
            (fun _ found => inside _ (Keyed.memberOfFound found)) inner steps)

theorem Outline.nestedSpelledAs : (nested : Option (List Outline)) →
    ∀ {found : Option Json} {steps : Option (List Step)} {room outer : Nat}, room % 2 = 1 →
    (∀ written ∈ found, written.depth ≤ room) → (∀ written ∈ found, written.depth < outer) →
    Outline.NestedReads found nested → Step.NestedFrom nested steps →
    PartsSpelledAs room outer ((Outline.nestedSpelledOut nested).map (·.2))
      ((Step.writtenNested steps).map (·.2))
  | none, found, steps, room, outer, odd, fits, inside, reads, read => by
    cases read
    exact .nil
  | some outlines, found, steps, room, outer, odd, fits, inside, reads, read => by
    cases reads with
    | given each =>
      cases read with
      | some read =>
        have within := (Json.listWithin.mp (fits _ rfl)).2
        refine .one (.list ?_) (inside _ rfl)
        exact Outline.itemsSpelledAs outlines (by omega) within (fun _ => Json.itemBelow) each read

theorem Outline.itemsSpelledAs : (outlines : List Outline) →
    ∀ {items : List Json} {steps : List Step} {room outer : Nat}, room % 2 = 0 →
    (∀ item ∈ items, item.depth ≤ room) → (∀ item ∈ items, item.depth < outer) →
    Outline.ListReads items outlines → Step.ListFrom outlines steps →
    PartsSpelledAs room outer (Outline.itemsSpelledOut outlines) (Step.listToJson steps)
  | [], items, steps, room, outer, even, fits, inside, reads, read => by
    cases read
    exact .nil
  | outline :: rest, items, steps, room, outer, even, fits, inside, reads, read => by
    cases reads with
    | cons first others =>
      cases read with
      | cons firstRead othersRead =>
        rw [List.forall_mem_cons] at fits inside
        rw [Outline.itemsSpelledOut, Step.listToJson]
        exact (PartsSpelledAs.one (Outline.spelledAs outline even fits.1 first firstRead)
          inside.1).append (Outline.itemsSpelledAs rest even fits.2 inside.2 others othersRead)

end

theorem Outline.documentSpelledAs {written : Json} {outlines : List Outline} {s : Scenario}
    (document : Outline.Document written outlines) (read : Step.ListFrom outlines s)
    (fits : written.depth ≤ Json.depthLimit) :
    SpelledAs Json.depthLimit written (Outline.documentSpelledOut outlines) s.toJson := by
  obtain ⟨items, rfl, each⟩ := document
  have within := (Json.listWithin.mp fits).2
  exact .list (Outline.itemsSpelledAs outlines rfl within (fun _ => Json.itemBelow) each read)

namespace Scenario

/-- What is read from a text is shown within the limit, and read again, just when the document stays
within the limit as its shorthands are written out. This takes one level more at most. -/
theorem shownWithinLimit [Readers] {text : String} {s : Scenario}
    (accepted : ofText text = .ok s) :
    ∃ written outlines, Json.read text = some written ∧ Outline.Document written outlines ∧
      (Outline.documentSpelledOut outlines).depth ≤ written.depth + 1 ∧
      (s.toJson.depth ≤ Json.depthLimit ↔
        (Outline.documentSpelledOut outlines).depth ≤ Json.depthLimit) ∧
      ((Outline.documentSpelledOut outlines).depth ≤ Json.depthLimit →
        ofText s.toJson.compact = .ok s) ∧
      (¬ (Outline.documentSpelledOut outlines).depth ≤ Json.depthLimit →
        ∃ failure, ofText s.toJson.compact = .error failure ∧ failure.name = "ParseError") := by
  have again := textReread (textWritable (.inl accepted))
  unfold ofText at accepted
  split at accepted
  · cases accepted
  · next written read =>
    obtain ⟨outlines, outlined, found⟩ := ofJsonOkIff.mp accepted
    have document := Outline.documentIff.mp outlined
    obtain ⟨oneMore, alike⟩ := Outline.documentSpelledAs document
      ((Step.listFromIff outlines s).mp found) (Json.readDepth read)
    refine ⟨written, outlines, read, document, oneMore, alike, ?_⟩
    simpa only [alike] using again

def nestedJson : Nat → Json → Json
  | 0, step => .list [step]
  | n + 1, step => .list [.record [("scenario", nestedJson n step)]]

def nested : Nat → Step → Scenario
  | 0, step => [step]
  | n + 1, step => [.nesting (nested n step)]

theorem nestingRead {reason : String} {written : Json} {s : Scenario}
    (found : ofJson .json reason written = .ok s) :
    ofJson .json reason (.list [.record [("scenario", written)]]) = .ok [.nesting s] := by
  obtain ⟨outlines, outlined, read⟩ := ofJsonOkIff.mp found
  obtain ⟨items, rfl, each⟩ := Outline.documentIff.mp outlined
  let body : OutlineBody := ⟨none, none, none, [], []⟩
  have own : OutlineBody.Reads [("scenario", .list items)] body := OutlineBody.readsIff.mp rfl
  have fielded : Step.Fielded (.record [("scenario", .list items)]) _ :=
    .named rfl (by simp [Keyed.Only, Keyed.names, stepFields]) (List.nodup_singleton _)
  have inner := (Step.listFromIff outlines s).mp read
  refine ofJsonOkIff.mpr ⟨[⟨body, some outlines⟩], Outline.documentIff.mpr
    ⟨_, rfl, .cons (.step fielded own (.given each)) .nil⟩, (Step.listFromIff _ _).mpr ?_⟩
  exact .cons (.step (StepBody.readFromIff.mp rfl) (.some inner)) .nil

theorem nestedRead {reason : String} {written : Json} {step : Step} (n : Nat)
    (found : ofJson .json reason (.list [written]) = .ok [step]) :
    ofJson .json reason (nestedJson n written) = .ok (nested n step) := by
  induction n with
  | zero => exact found
  | succ n ih => exact nestingRead ih

theorem nestedJsonDepth (n : Nat) (step : Json) :
    (nestedJson n step).depth = step.depth + 2 * n + 1 := by
  induction n with
  | zero => simp [nestedJson, Json.depth, Json.depthItems]
  | succ n ih =>
    simp [nestedJson, Json.depth, Json.depthItems, Json.depthFields, ih]
    omega

theorem nestedDepth (n : Nat) (step : Step) :
    (toJson (nested n step)).depth = step.toJson.depth + 2 * n + 1 := by
  induction n with
  | zero => simp [nested, toJson, Step.listToJson, Json.depth, Json.depthItems]
  | succ n ih =>
    show (Json.list [.record [("scenario", toJson (nested n step))]]).depth = _
    simp [Json.depth, Json.depthItems, Json.depthFields, ih]
    omega

theorem nestedPlain {step : Json} (plain : step.Plain) (n : Nat) : (nestedJson n step).Plain := by
  induction n with
  | zero => exact ⟨plain, trivial⟩
  | succ n ih => exact ⟨⟨ih, trivial⟩, trivial⟩

theorem nestedAccepted [Readers] {written : Json} {step : Step} {n : Nat} (plain : written.Plain)
    (fits : written.depth + 2 * n < Json.depthLimit)
    (found : ∀ reason, ofJson .json reason (.list [written]) = .ok [step]) :
    ofText (nestedJson n written).compact = .ok (nested n step) := by
  have shallow : (nestedJson n written).depth ≤ Json.depthLimit := by
    rw [nestedJsonDepth]
    exact fits
  unfold ofText
  rw [Json.readCompact (nestedPlain plain n), if_pos shallow]
  exact nestedRead n (found _)

def namingGuard : Json :=
  .record [("execif", .list [.list [.record [("attr_x", .text "v"), ("likes", .text "html")]]])]

def singleCheck : Json :=
  .record [("actions", .list [.record [("check", .record [("css", .text "a")]),
    ("value", .record [("placeholder", .text "k")])]])]

def typedGuard : Step :=
  .guarded [[.assertion {
    demand := .compare {
      target := .html
      criterion := .likes (.value "v")
      kind := some (.attr "x")
      count := none }
    timeout := none }]]

def listCheck : Step :=
  .acting [{
    deed := .check (.value { strategy := .css, selector := "a" })
      [.reference { key := "k", append := [] }]
    timeout := none }]

theorem refusedAsShown :
    (nestedJson 61 namingGuard).depth = Json.depthLimit ∧
    (toJson (nested 61 typedGuard)).depth = Json.depthLimit + 1 ∧
    ∀ [Readers], ofText (nestedJson 61 namingGuard).compact = .ok (nested 61 typedGuard) ∧
      ∃ failure, ofText (toJson (nested 61 typedGuard)).compact = .error failure ∧
        failure.name = "ParseError" := by
  have plain : namingGuard.Plain := by
    simp [namingGuard, Json.Plain, Json.PlainItems, Json.PlainFields]
  have deeper : (toJson (nested 61 typedGuard)).depth = Json.depthLimit + 1 := by
    rw [nestedDepth]
    rfl
  refine ⟨by rw [nestedJsonDepth]; rfl, deeper, ?_⟩
  intro readers
  have accepted : ofText (nestedJson 61 namingGuard).compact = .ok (nested 61 typedGuard) :=
    nestedAccepted plain (by decide) fun _ => rfl
  have again := textReread (textWritable (.inl accepted))
  rw [deeper] at again
  exact ⟨accepted, again.2 (Nat.not_succ_le_self _)⟩

theorem shownWithinLimitUnlessSingle :
    (∀ [Readers], ofText (nestedJson 61 singleCheck).compact = .ok (nested 61 listCheck)) ∧
    ∃ written outlines, Json.read (nestedJson 61 singleCheck).compact = some written ∧
      Outline.Document written outlines ∧
      ¬ (Outline.documentSpelledOut outlines).depth ≤ Json.depthLimit := by
  have plain : singleCheck.Plain := by
    simp [singleCheck, Json.Plain, Json.PlainItems, Json.PlainFields]
  have accepted [Readers] :
      ofText (nestedJson 61 singleCheck).compact = .ok (nested 61 listCheck) :=
    nestedAccepted plain (by decide) fun _ => rfl
  have deeper : (toJson (nested 61 listCheck)).depth = Json.depthLimit + 1 := by
    rw [nestedDepth]
    rfl
  obtain ⟨written, outlines, read, document, _, alike, _⟩ :=
    @shownWithinLimit .mute _ _ (@accepted .mute)
  refine ⟨accepted, written, outlines, read, document, fun fits => ?_⟩
  have shown := alike.mpr fits
  omega

end Scenario

end PageCheck
