import PageCheck.Proofs.OutlineGrammar

/-!
Reading in two stages. A document without an outline is malformed, whatever is wrong inside its
directive maps; else the first faulty map in the order of the document is told, and without one the
scenario holds what the maps say. Reading step after step accepts the same documents.
-/
namespace PageCheck

inductive Site where
  | condition (map : Fields)
  | action (map : Fields)
  | check (map : Fields)

def faultOf {α : Type} : Except Fault α → Option Fault
  | .ok _ => none
  | .error fault => some fault

def Site.fault? : Site → Option Fault
  | .condition map => faultOf (Condition.ofFields map)
  | .action map => faultOf (Action.ofFields map)
  | .check map => faultOf (Assertion.ofFields map)

def Guard.sites (groups : List (List Fields)) : List Site :=
  groups.flatMap fun group => group.map .condition

def OutlineBody.sites (b : OutlineBody) : List Site :=
  Guard.sites (b.execif.getD []) ++ (b.actions.map .action ++ b.checks.map .check)

mutual

def Outline.sites : Outline → List Site
  | ⟨body, nested⟩ => body.sites ++ Outline.nestedSites nested

def Outline.nestedSites : Option (List Outline) → List Site
  | none => []
  | some outlines => Outline.listSites outlines

def Outline.listSites : List Outline → List Site
  | [] => []
  | outline :: rest => outline.sites ++ Outline.listSites rest

end

def FirstFault (sites : List Site) (fault : Fault) : Prop :=
  ∃ before site after, sites = before ++ site :: after ∧
    (∀ earlier ∈ before, earlier.fault? = none) ∧ site.fault? = some fault

theorem firstFaultIff {sites : List Site} {fault : Fault} :
    sites.findSome? Site.fault? = some fault ↔ FirstFault sites fault := by
  rw [List.findSome?_eq_some_iff]
  refine exists_congr fun before => exists_congr fun site => exists_congr fun after => ?_
  exact and_congr_right fun _ => and_comm

def Screens {α : Type} (result : Except Fault α) (sites : List Site) : Prop :=
  faultOf result = sites.findSome? Site.fault?

namespace Screens

variable {α β : Type} {result : Except Fault α} {sites others : List Site}

theorem bind {next : α → Except Fault β} (first : Screens result sites)
    (rest : ∀ found, Screens (next found) others) : Screens (result >>= next) (sites ++ others) := by
  unfold Screens at *
  rw [List.findSome?_append, ← first]
  cases result with
  | ok found => exact rest found
  | error fault => rfl

theorem map (build : α → β) (first : Screens result sites) :
    Screens (do return build (← result)) sites := by
  rw [← List.append_nil sites]
  exact first.bind fun _ => rfl

theorem all {read : α → Except Fault β} {sites : α → List Site}
    (each : ∀ part, Screens (read part) (sites part)) (parts : List α) :
    Screens (readAll read parts) (parts.flatMap sites) := by
  induction parts with
  | nil => rfl
  | cons part rest ih =>
    rw [List.flatMap_cons]
    exact (each part).bind fun _ => ih.map _

theorem single {read : Fields → Except Fault β} {site : Fields → Site}
    (same : ∀ map, (site map).fault? = faultOf (read map)) (maps : List Fields) :
    Screens (readAll read maps) (maps.map site) := by
  rw [List.map_eq_flatMap]
  refine all (fun map => ?_) maps
  unfold Screens
  rw [List.findSome?_singleton, same]

theorem okIff (screens : Screens result sites) :
    (∃ found, result = .ok found) ↔ ∀ site ∈ sites, site.fault? = none := by
  rw [← List.findSome?_eq_none_iff, ← screens]
  cases result with
  | ok found => exact iff_of_true ⟨found, rfl⟩ rfl
  | error fault => exact iff_of_false nofun nofun

theorem errorIff (screens : Screens result sites) (fault : Fault) :
    result = .error fault ↔ FirstFault sites fault := by
  rw [← firstFaultIff, ← screens]
  cases result with
  | ok found => exact iff_of_false nofun nofun
  | error found => exact ⟨fun same => congrArg some (Except.error.inj same),
      fun same => congrArg Except.error (Option.some.inj same)⟩

end Screens

theorem Guard.screens (groups : List (List Fields)) :
    Screens (Guard.ofOutline groups) (Guard.sites groups) :=
  .all (.single fun _ => rfl) groups

theorem StepBody.screens (o : OutlineBody) : Screens (StepBody.ofOutline o) o.sites := by
  have afterGuard (execif : Option Guard) : Screens
      (do
        let actions ← readAll Action.ofFields o.actions
        let checks ← readAll Assertion.ofFields o.checks
        return StepBody.mk o.url o.link execif actions checks)
      (o.actions.map .action ++ o.checks.map .check) :=
    (Screens.single (fun _ => rfl) o.actions).bind fun actions =>
      (Screens.single (fun _ => rfl) o.checks).map _
  obtain ⟨url, link, execif, actions, checks⟩ := o
  cases execif with
  | none => exact afterGuard none
  | some groups => exact ((Guard.screens groups).map some).bind afterGuard

mutual

theorem Step.screens : (o : Outline) → Screens (Step.ofOutline o) o.sites
  | ⟨body, nested⟩ => by
    rw [Step.ofOutline, Outline.sites]
    exact (StepBody.screens body).bind fun _ => (Step.nestedScreens nested).map _

theorem Step.nestedScreens : (nested : Option (List Outline)) →
    Screens (Step.ofNestedOutline nested) (Outline.nestedSites nested)
  | none => by
    rw [Step.ofNestedOutline, Outline.nestedSites]
    rfl
  | some outlines => by
    rw [Step.ofNestedOutline, Outline.nestedSites]
    exact (Step.listScreens outlines).map some

theorem Step.listScreens : (outlines : List Outline) →
    Screens (Step.ofOutlines outlines) (Outline.listSites outlines)
  | [] => by
    rw [Step.ofOutlines, Outline.listSites]
    rfl
  | outline :: rest => by
    rw [Step.ofOutlines, Outline.listSites]
    exact (Step.screens outline).bind fun _ => (Step.listScreens rest).map _

end

structure StepBody.ReadFrom (o : OutlineBody) (b : StepBody) : Prop where
  url : b.url = o.url
  link : b.link = o.link
  execif : Option.Rel (List.Forall₂ (List.Forall₂ fun map c => Condition.ofFields map = .ok c))
    o.execif b.execif
  actions : List.Forall₂ (fun map a => Action.ofFields map = .ok a) o.actions b.actions
  checks : List.Forall₂ (fun map a => Assertion.ofFields map = .ok a) o.checks b.checks

mutual

inductive Step.ReadFrom : Outline → Step → Prop where
  | step {body own nested steps} (reads : StepBody.ReadFrom body own)
      (inner : Step.NestedFrom nested steps) : ReadFrom ⟨body, nested⟩ ⟨own, steps⟩

inductive Step.NestedFrom : Option (List Outline) → Option (List Step) → Prop where
  | none : NestedFrom none none
  | some {outlines steps} (each : Step.ListFrom outlines steps) :
    NestedFrom (some outlines) (some steps)

inductive Step.ListFrom : List Outline → List Step → Prop where
  | nil : ListFrom [] []
  | cons {outline step outlines steps} (first : Step.ReadFrom outline step)
      (others : Step.ListFrom outlines steps) : ListFrom (outline :: outlines) (step :: steps)

end

theorem readAllIff {α β : Type} {read : α → Except Fault β} {reads : α → β → Prop}
    (agrees : ∀ part found, read part = .ok found ↔ reads part found) {parts : List α}
    {found : List β} : readAll read parts = .ok found ↔ List.Forall₂ reads parts found := by
  induction parts generalizing found with
  | nil =>
    rw [List.forall₂_nil_left_iff, readAll]
    exact ⟨fun same => (Except.ok.inj same).symm, fun same => congrArg Except.ok same.symm⟩
  | cons part rest ih =>
    rw [readAll, bindOk, List.forall₂_cons_left_iff]
    constructor
    · rintro ⟨first, read, others⟩
      obtain ⟨last, following, rfl⟩ := mapOk.mp others
      exact ⟨first, last, (agrees _ _).mp read, ih.mp following, rfl⟩
    · rintro ⟨first, last, stands, following, rfl⟩
      exact ⟨first, (agrees _ _).mpr stands, mapOk.mpr ⟨last, ih.mpr following, rfl⟩⟩

theorem StepBody.readFromIff {o : OutlineBody} {b : StepBody} :
    StepBody.ofOutline o = .ok b ↔ StepBody.ReadFrom o b := by
  have guarded {groups : List (List Fields)} {g : Guard} : Guard.ofOutline groups = .ok g ↔
      List.Forall₂ (List.Forall₂ fun map c => Condition.ofFields map = .ok c) groups g :=
    readAllIff fun _ _ => readAllIff fun _ _ => Iff.rfl
  have afterGuard {execif : Option Guard} :
      (do
        let actions ← readAll Action.ofFields o.actions
        let checks ← readAll Assertion.ofFields o.checks
        return StepBody.mk o.url o.link execif actions checks) = .ok b ↔
      b.url = o.url ∧ b.link = o.link ∧ b.execif = execif ∧
        List.Forall₂ (fun map a => Action.ofFields map = .ok a) o.actions b.actions ∧
        List.Forall₂ (fun map a => Assertion.ofFields map = .ok a) o.checks b.checks := by
    simp only [bindOk, readAllIff fun _ _ => Iff.rfl]
    constructor
    · rintro ⟨actions, acts, checks, verifies, ⟨⟩⟩
      exact ⟨rfl, rfl, rfl, acts, verifies⟩
    · rintro ⟨url, link, same, acts, verifies⟩
      exact ⟨_, acts, _, verifies, by rw [← url, ← link, ← same]; rfl⟩
  obtain ⟨url, link, groups, actions, checks⟩ := o
  cases groups with
  | none =>
    refine afterGuard.trans ⟨?_, ?_⟩
    · rintro ⟨url, link, none, acts, verifies⟩
      exact ⟨url, link, none ▸ .none, acts, verifies⟩
    · rintro ⟨url, link, execif, acts, verifies⟩
      refine ⟨url, link, ?_, acts, verifies⟩
      generalize b.execif = found at execif ⊢
      cases execif
      rfl
  | some groups =>
    refine bindOk.trans ⟨?_, ?_⟩
    · rintro ⟨execif, atGuard, read⟩
      obtain ⟨g, reads, rfl⟩ := mapsOk atGuard
      obtain ⟨url, link, same, acts, verifies⟩ := afterGuard.mp read
      exact ⟨url, link, same ▸ .some (guarded.mp reads), acts, verifies⟩
    · rintro ⟨url, link, execif, acts, verifies⟩
      cases found : b.execif with
      | none => rw [found] at execif; cases execif
      | some g =>
        rw [found] at execif
        cases execif with
        | some each =>
          refine ⟨some g, mapsIff.mpr ⟨g, guarded.mpr each, rfl⟩, ?_⟩
          exact afterGuard.mpr ⟨url, link, found, acts, verifies⟩

mutual

theorem Step.readFromIff : (o : Outline) → (s : Step) →
    (Step.ofOutline o = .ok s ↔ Step.ReadFrom o s)
  | ⟨body, nested⟩, s => by
    rw [Step.ofOutline, bindOk]
    simp only [mapOk]
    constructor
    · rintro ⟨own, atBody, steps, atNested, rfl⟩
      exact .step (StepBody.readFromIff.mp atBody) ((Step.nestedFromIff nested steps).mp atNested)
    · rintro ⟨reads, inner⟩
      exact ⟨_, StepBody.readFromIff.mpr reads, _, (Step.nestedFromIff nested _).mpr inner, rfl⟩

theorem Step.nestedFromIff : (nested : Option (List Outline)) → (steps : Option (List Step)) →
    (Step.ofNestedOutline nested = .ok steps ↔ Step.NestedFrom nested steps)
  | none, steps => by
    rw [Step.ofNestedOutline]
    exact ⟨fun same => Except.ok.inj same ▸ .none, fun reads => by cases reads; rfl⟩
  | some outlines, steps => by
    rw [Step.ofNestedOutline, mapOk]
    constructor
    · rintro ⟨found, read, rfl⟩
      exact .some ((Step.listFromIff outlines found).mp read)
    · intro reads
      cases reads with
      | some each => exact ⟨_, (Step.listFromIff outlines _).mpr each, rfl⟩

theorem Step.listFromIff : (outlines : List Outline) → (steps : List Step) →
    (Step.ofOutlines outlines = .ok steps ↔ Step.ListFrom outlines steps)
  | [], steps => by
    rw [Step.ofOutlines]
    exact ⟨fun same => Except.ok.inj same ▸ .nil, fun reads => by cases reads; rfl⟩
  | outline :: rest, steps => by
    rw [Step.ofOutlines, bindOk]
    simp only [mapOk]
    constructor
    · rintro ⟨first, read, others, following, rfl⟩
      exact .cons ((Step.readFromIff outline first).mp read)
        ((Step.listFromIff rest others).mp following)
    · rintro (_ | ⟨first, others⟩)
      exact ⟨_, (Step.readFromIff outline _).mpr first, _, (Step.listFromIff rest _).mpr others,
        rfl⟩

end

theorem Step.ofJsonIff {written : Json} {s : Step} :
    Step.ofJson written = some s ↔
      ∃ o, Outline.ofJson written = some o ∧ Step.ofOutline o = .ok s := by
  unfold Step.ofJson
  rw [Option.bind_eq_some_iff]
  refine exists_congr fun o => and_congr_right fun _ => ?_
  cases Step.ofOutline o with
  | ok found => exact ⟨fun same => congrArg Except.ok (Option.some.inj same),
      fun same => congrArg some (Except.ok.inj same)⟩
  | error fault => exact iff_of_false nofun nofun

theorem Step.itemsIff {items : List Json} {steps : List Step} :
    items.mapM Step.ofJson = some steps ↔
      ∃ outlines, Outline.listOf items = some outlines ∧ Step.ofOutlines outlines = .ok steps := by
  induction items generalizing steps with
  | nil =>
    rw [Outline.listOf]
    constructor
    · rintro ⟨⟩
      exact ⟨[], rfl, by rw [Step.ofOutlines]; rfl⟩
    · rintro ⟨_, ⟨⟩, read⟩
      rw [Step.ofOutlines] at read
      cases read
      rfl
  | cons item rest ih =>
    rw [List.mapM_cons, Outline.listOf]
    simp only [bind, pure, Option.bind_eq_some_iff, Step.ofJsonIff, ih, Option.some.injEq]
    constructor
    · rintro ⟨first, ⟨o, outlined, read⟩, others, ⟨outlines, listed, following⟩, rfl⟩
      refine ⟨_, ⟨o, outlined, outlines, listed, rfl⟩, ?_⟩
      rw [Step.ofOutlines]
      exact bindOk.mpr ⟨first, read, mapOk.mpr ⟨others, following, rfl⟩⟩
    · rintro ⟨_, ⟨o, outlined, outlines, listed, rfl⟩, read⟩
      rw [Step.ofOutlines] at read
      obtain ⟨first, atFirst, read⟩ := bindOk.mp read
      obtain ⟨others, following, rfl⟩ := mapOk.mp read
      exact ⟨first, ⟨o, outlined, atFirst⟩, others, ⟨outlines, listed, following⟩, rfl⟩

namespace Scenario

theorem ofItemsIff {written : Json} {s : Scenario} :
    ofItems written = some s ↔
      ∃ outlines, Outline.document written = some outlines ∧ Step.ofOutlines outlines = .ok s := by
  cases written with
  | list items => exact Step.itemsIff
  | _ => exact iff_of_false nofun (by rintro ⟨_, ⟨⟩, _⟩)

theorem ofJsonOutlined {source : Source} {reason : String} {written : Json}
    {outlines : List Outline} (document : Outline.Document written outlines) :
    ofJson source reason written = (Step.ofOutlines outlines).mapError .scenario := by
  unfold ofJson
  rw [Outline.documentIff.mpr document]

theorem ofJsonOkIff {source : Source} {reason : String} {written : Json} {s : Scenario} :
    ofJson source reason written = .ok s ↔
      ∃ outlines, Outline.document written = some outlines ∧ Step.ofOutlines outlines = .ok s := by
  unfold ofJson
  cases Outline.document written with
  | none => exact iff_of_false nofun (by rintro ⟨_, ⟨⟩, _⟩)
  | some outlines =>
    refine ⟨fun read => ⟨outlines, rfl, mapErrorOk read⟩, ?_⟩
    rintro ⟨_, ⟨⟩, read⟩
    exact congrArg (Except.mapError Failure.scenario) read

theorem ofJsonErrorIff {source : Source} {reason : String} {written : Json}
    {outlines : List Outline} (document : Outline.Document written outlines) {failure : Failure} :
    ofJson source reason written = .error failure ↔
      ∃ fault, FirstFault (Outline.listSites outlines) fault ∧ failure = .scenario fault := by
  simp only [ofJsonOutlined document, ← (Step.listScreens outlines).errorIff]
  cases Step.ofOutlines outlines with
  | ok found => exact iff_of_false nofun (by rintro ⟨_, ⟨⟩, _⟩)
  | error fault =>
    refine ⟨fun told => ⟨fault, rfl, (Except.error.inj told).symm⟩, ?_⟩
    rintro ⟨_, ⟨⟩, rfl⟩
    rfl

theorem malformedIff {source : Source} {reason : String} {written : Json} :
    (∃ failure, ofJson source reason written = .error failure ∧ failure.name = "ParseError") ↔
      ¬ ∃ outlines, Outline.Document written outlines := by
  constructor
  · rintro ⟨failure, failed, named⟩ ⟨outlines, document⟩
    obtain ⟨fault, _, rfl⟩ := (ofJsonErrorIff document).mp failed
    simp [Failure.name] at named
  · intro malformed
    have none : Outline.document written = none :=
      Option.eq_none_iff_forall_ne_some.mpr fun outlines outlined =>
        malformed ⟨outlines, Outline.documentIff.mp outlined⟩
    refine ⟨.unreadable source reason, ?_, rfl⟩
    unfold ofJson
    rw [none]

theorem misconfiguredIff {source : Source} {reason : String} {written : Json}
    {outlines : List Outline} (document : Outline.Document written outlines) :
    (∃ failure, ofJson source reason written = .error failure ∧
        failure.name = "ConfigurationError") ↔
      ∃ site ∈ Outline.listSites outlines, site.fault? ≠ none := by
  have unread := (Step.listScreens outlines).okIff.not
  push Not at unread
  refine Iff.trans ?_ unread
  rw [ofJsonOutlined document]
  cases Step.ofOutlines outlines with
  | ok found => exact iff_of_false (by rintro ⟨_, ⟨⟩, _⟩) (fun none => none found rfl)
  | error fault => exact iff_of_true ⟨.scenario fault, rfl, rfl⟩ nofun

/-- What is wrong with the outline comes before what is wrong inside a map. -/
theorem readInStages (source : Source) (reason : String) (written : Json) :
    ((∃ failure, ofJson source reason written = .error failure ∧
        failure.name = "ParseError") ↔
      ¬ ∃ outlines, Outline.Document written outlines) ∧
    (∀ outlines, Outline.Document written outlines →
      ((∃ failure, ofJson source reason written = .error failure ∧
          failure.name = "ConfigurationError") ↔
        ∃ site ∈ Outline.listSites outlines, site.fault? ≠ none) ∧
      (∀ failure, ofJson source reason written = .error failure ↔
        ∃ fault, FirstFault (Outline.listSites outlines) fault ∧ failure = .scenario fault) ∧
      ∀ s, ofJson source reason written = .ok s ↔ Step.ListFrom outlines s) ∧
    (∀ s, ofItems written = some s ↔ ofJson source reason written = .ok s) ∧
    ∀ [Readers] (text), Json.read text = some written →
      ofText text = ofJson .json (Readers.scenario .json text) written := by
  refine ⟨malformedIff, fun outlines document => ⟨misconfiguredIff document,
    fun _ => ofJsonErrorIff document, fun s => ?_⟩, fun s => ofItemsIff.trans ofJsonOkIff.symm, ?_⟩
  · rw [← Step.listFromIff, ofJsonOkIff, Outline.documentIff.mpr document]
    exact ⟨fun ⟨_, same, read⟩ => Option.some.inj same ▸ read, fun read => ⟨outlines, rfl, read⟩⟩
  · intro readers text read
    unfold ofText
    rw [read]

def faultyStep : Json := .record
  [("actions", .list [.record [("press", .text "#go")]]),
    ("execif", .list [.list [.record [("bool", .list [])]]])]

theorem readInStagesGuardFirst :
    ofJson .json "" (.list [faultyStep]) = .error (.scenario (.misfit "bool" .notDeferred)) ∧
    ∃ failure, ofJson .json "" (.list [faultyStep, .null]) = .error failure ∧
      failure.name = "ParseError" := by
  constructor
  · obtain ⟨_, wellFormed, _⟩ := readInStages .json "" (.list [faultyStep])
    obtain ⟨_, faults, _⟩ := wellFormed _ (Outline.documentIff.mp rfl)
    -- the action is faulty as well, and written first
    refine (faults _).mpr ⟨_, firstFaultIff.mp ?_, rfl⟩
    rfl
  · obtain ⟨malformed, _⟩ := readInStages .json "" (.list [faultyStep, .null])
    refine malformed.mpr ?_
    rintro ⟨outlines, document⟩
    exact nomatch Outline.documentIff.mpr document

end Scenario

end PageCheck
