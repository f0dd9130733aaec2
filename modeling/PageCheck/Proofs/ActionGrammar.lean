import PageCheck.Proofs.AssertionGrammar

/-!
The grammar of actions. An action is read from a map just when one key of the map is a deed and the
other keys are those that the deed asks for, each with a value that fits. The answer to a dialog has
two written forms, of which one is a record.
-/
namespace PageCheck

variable {d : Directive} {answers : Json → Answer → Prop}

def Answer.Named (written : Json) (answer : Answer) : Prop := written = .text answer.key

inductive Answer.Reads (written : Json) (answer : Answer) : Prop where
  | name (named : Answer.Named written answer)
  | record (alone : written = .record [(answer.key, .null)])

theorem Answer.namedIff {found : String} {answer : Answer} :
    Answer.read.named found = .ok answer ↔ found = answer.key := by
  unfold Answer.read.named
  constructor
  · intro read
    split at read
    · cases read
      assumption
    · split at read
      · cases read
        assumption
      · cases read
  · rintro rfl
    cases answer <;> rfl

theorem Answer.readsIff {written : Json} {answer : Answer} :
    Answer.read written = .ok answer ↔ Answer.Reads written answer := by
  constructor
  · intro read
    unfold Answer.read at read
    split at read
    · exact .name (congrArg Json.text (namedIff.mp read))
    · next found content =>
      obtain ⟨named, same, read⟩ := bindOk.mp read
      split at read
      · cases read
        exact .record (by rw [namedIff.mp same])
      · cases read
    · cases read
    · cases read
  · rintro (named | alone)
    · rw [named]
      exact namedIff.mpr rfl
    · rw [alone]
      exact bindOk.mpr ⟨answer, namedIff.mpr rfl, rfl⟩

inductive Frame.Reads (written : Json) : Frame → Prop where
  | top (named : written = .text "default") : Reads written .top
  | within {locator} (locates : Deferred.Reads written locator) : Reads written (.within locator)

namespace Deed

inductive IsGroup : String → (Deferred Locator → List (Deferred String) → Deed) → Prop where
  | check : IsGroup "check" .check
  | select : IsGroup "select" .select
  | unselect : IsGroup "unselect" .unselect

theorem IsGroup.named {name : String} {build : Deferred Locator → List (Deferred String) → Deed}
    (group : IsGroup name build) (target : Deferred Locator) (values : List (Deferred String)) :
    (build target values).directive = name := by
  cases group <;> rfl

inductive StandsIn (answers : Json → Answer → Prop) (body : Json) (rest : Fields) : Deed → Prop where
  | click {target} (locates : Deferred.Reads body target) (only : rest.Only ["timeout"]) :
    StandsIn answers body rest (.click target)
  | sendKeys {target value} (locates : Deferred.Reads body target)
      (gives : rest.Gives "value" Deferred.Reads value) (only : rest.Only ["timeout", "value"]) :
    StandsIn answers body rest (.sendKeys target value)
  | clear {target} (locates : Deferred.Reads body target) (only : rest.Only ["timeout"]) :
    StandsIn answers body rest (.clear target .text)
  | uncheck {target} (locates : Deferred.Reads body target)
      (typed : rest.Gives "type" Json.IsText "checkbox") (only : rest.Only ["timeout", "type"]) :
    StandsIn answers body rest (.clear target .checkbox)
  | single {name deed target value} (group : IsGroup name deed)
      (locates : Deferred.Reads body target) (gives : rest.Gives "value" Deferred.Reads value)
      (only : rest.Only ["timeout", "value"]) :
    StandsIn answers body rest (deed target [value])
  | several {name deed target values} (group : IsGroup name deed)
      (locates : Deferred.Reads body target) (gives : rest.Gives "values" Deferred.Lists values)
      (only : rest.Only ["timeout", "values"]) :
    StandsIn answers body rest (deed target values)
  | alert {answer} (answered : answers body answer) (only : rest.Only ["timeout"]) :
    StandsIn answers body rest (.alert answer)
  | switchTo {frame} (framed : Frame.Reads body frame) (only : rest.Only ["timeout"]) :
    StandsIn answers body rest (.switchTo frame)

abbrev Reader := Directive → Except Fault Deed

inductive IsReader : String → Reader → Prop where
  | click : IsReader "click" readClick
  | sendKeys : IsReader "sendKeys" readSendKeys
  | clear : IsReader "clear" readClear
  | group {name build} (group : IsGroup name build) : IsReader name (readGroup build)
  | alert : IsReader "alert" readAlert
  | switchTo : IsReader "switchTo" readSwitchTo

theorem IsGroup.isReader {name : String}
    {build : Deferred Locator → List (Deferred String) → Deed} (group : IsGroup name build)
    (target : Deferred Locator) (values : List (Deferred String)) :
    IsReader (build target values).directive (readGroup build) := by
  rw [group.named]
  exact .group group

theorem readerIff {name : String} {read : Reader} :
    readers.get? name = some read ↔ IsReader name read := by
  constructor
  · intro found
    have member := Keyed.memberOfFound found
    simp only [readers, List.mem_cons, List.not_mem_nil, or_false, Prod.mk.injEq] at member
    obtain ⟨rfl, rfl⟩ | ⟨rfl, rfl⟩ | ⟨rfl, rfl⟩ | ⟨rfl, rfl⟩ | ⟨rfl, rfl⟩ | ⟨rfl, rfl⟩ |
      ⟨rfl, rfl⟩ | ⟨rfl, rfl⟩ := member
    · exact .click
    · exact .sendKeys
    · exact .clear
    · exact .group .check
    · exact .group .select
    · exact .group .unselect
    · exact .alert
    · exact .switchTo
  · intro known
    cases known with
    | group group => cases group <;> rfl
    | _ => rfl

section Sound

variable {deed : Deed}

theorem locatedIff {target : Deferred Locator} :
    d.value Shape.deferred = .ok target ↔ Deferred.Reads d.body target :=
  Directive.valueIff fun _ _ => Shape.deferredIff

theorem typedIff {kind : Option String} :
    d.modifier? "type" Shape.string = .ok kind ↔ d.modifiers.May "type" Json.IsText kind :=
  Directive.optionalIff fun _ _ => Shape.stringIff

theorem clickSound (read : readClick d = .ok deed) :
    deed.directive = "click" ∧ deed.StandsIn answers d.body d.modifiers := by
  obtain ⟨target, located, read⟩ := bindOk.mp read
  obtain ⟨_, finished, rfl⟩ := mapOk.mp read
  exact ⟨rfl, .click (locatedIff.mp located) (Directive.finishIff.mp finished)⟩

theorem sendKeysSound (read : readSendKeys d = .ok deed) :
    deed.directive = "sendKeys" ∧ deed.StandsIn answers d.body d.modifiers := by
  obtain ⟨target, located, read⟩ := bindOk.mp read
  obtain ⟨value, gives, read⟩ := bindOk.mp read
  obtain ⟨_, finished, rfl⟩ := mapOk.mp read
  exact ⟨rfl, .sendKeys (locatedIff.mp located)
    ((Directive.neededIff fun _ _ => Shape.deferredIff).mp gives)
    (Directive.finishIff.mp finished)⟩

theorem clearedIff {mode : ClearMode} :
    (do
      let target ← d.value Shape.deferred
      d.finish ["timeout", "type"]
      return clear target mode) = .ok deed ↔
      ∃ target, Deferred.Reads d.body target ∧ d.modifiers.Only ["timeout", "type"] ∧
        clear target mode = deed := by
  rw [bindOk]
  refine exists_congr fun target => and_congr locatedIff ?_
  rw [mapOk, ← Directive.finishIff]
  exact ⟨fun ⟨_, finished, same⟩ => ⟨finished, same⟩, fun ⟨finished, same⟩ => ⟨(), finished, same⟩⟩

theorem clearSound (read : readClear d = .ok deed) :
    deed.directive = "clear" ∧ deed.StandsIn answers d.body d.modifiers := by
  obtain ⟨kind, typed, read⟩ := bindOk.mp read
  cases typedIff.mp typed with
  | missing absent =>
    obtain ⟨target, locates, only, rfl⟩ := clearedIff.mp read
    exact ⟨rfl, .clear locates (only.without absent (by decide))⟩
  | @given found gives =>
    change (if found = "checkbox" then _ else _) = _ at read
    split at read
    · next named =>
      subst named
      obtain ⟨target, locates, only, rfl⟩ := clearedIff.mp read
      exact ⟨rfl, .uncheck locates gives only⟩
    · cases read

theorem groupSound {name : String} {build : Deferred Locator → List (Deferred String) → Deed}
    (group : IsGroup name build) (read : readGroup build d = .ok deed) :
    deed.directive = name ∧ deed.StandsIn answers d.body d.modifiers := by
  obtain ⟨target, located, read⟩ := bindOk.mp read
  obtain ⟨expected, expects, read⟩ := bindOk.mp read
  obtain ⟨_, finished, rfl⟩ := mapOk.mp read
  have locates := locatedIff.mp located
  have either := Directive.finishIff.mp finished
  refine ⟨group.named target _, ?_⟩
  cases Expected.ofDirectiveIff.mp expects with
  | one gives single => exact .single group locates gives (either.without single (by decide))
  | many gives single => exact .several group locates gives (either.without single (by decide))

theorem alertSound (read : readAlert d = .ok deed) :
    deed.directive = "alert" ∧ deed.StandsIn Answer.Reads d.body d.modifiers := by
  obtain ⟨answer, answered, read⟩ := bindOk.mp read
  obtain ⟨_, finished, rfl⟩ := mapOk.mp read
  exact ⟨rfl, .alert ((Directive.valueIff fun _ _ => Answer.readsIff).mp answered)
    (Directive.finishIff.mp finished)⟩

theorem switchToSound (read : readSwitchTo d = .ok deed) :
    deed.directive = "switchTo" ∧ deed.StandsIn answers d.body d.modifiers := by
  have framed {frame : Frame} (reads : Frame.Reads d.body frame)
      (read : (do d.finish ["timeout"]; return switchTo frame) = .ok deed) :
      deed.directive = "switchTo" ∧ deed.StandsIn answers d.body d.modifiers := by
    obtain ⟨_, finished, rfl⟩ := mapOk.mp read
    exact ⟨rfl, .switchTo reads (Directive.finishIff.mp finished)⟩
  unfold readSwitchTo at read
  dsimp only at read
  split at read
  · next found body =>
    split at read
    · next named => exact framed (.top (by rw [body, named])) read
    · cases read
  · obtain ⟨_, within, read⟩ := bindOk.mp read
    obtain ⟨locator, located, rfl⟩ := mapsOk within
    exact framed (.within (locatedIff.mp located)) read

theorem readersSound {name : String} {read : Reader} (known : IsReader name read)
    (ran : read d = .ok deed) :
    deed.directive = name ∧ deed.StandsIn Answer.Reads d.body d.modifiers := by
  cases known with
  | click => exact clickSound ran
  | sendKeys => exact sendKeysSound ran
  | clear => exact clearSound ran
  | group group => exact groupSound group ran
  | alert => exact alertSound ran
  | switchTo => exact switchToSound ran

end Sound

theorem readersComplete {deed : Deed} (stands : deed.StandsIn Answer.Reads d.body d.modifiers) :
    ∃ read, IsReader deed.directive read ∧ read d = .ok deed := by
  have finished {keys : List String} (only : d.modifiers.Only keys) {others : List String}
      (wider : keys ⊆ others) : d.finish others = .ok () :=
    Directive.finishIff.mpr (only.mono wider)
  cases stands with
  | click locates only =>
    refine ⟨readClick, .click, bindOk.mpr ⟨_, locatedIff.mpr locates, ?_⟩⟩
    exact mapOk.mpr ⟨(), finished only (by decide), rfl⟩
  | sendKeys locates gives only =>
    refine ⟨readSendKeys, .sendKeys, bindOk.mpr ⟨_, locatedIff.mpr locates, ?_⟩⟩
    refine bindOk.mpr ⟨_, (Directive.neededIff fun _ _ => Shape.deferredIff).mpr gives, ?_⟩
    exact mapOk.mpr ⟨(), finished only (by decide), rfl⟩
  | clear locates only =>
    have untyped := typedIff.mpr (.missing (only.absent (by decide)))
    refine ⟨readClear, .clear, bindOk.mpr ⟨none, untyped, ?_⟩⟩
    exact clearedIff.mpr ⟨_, locates, only.mono (by decide), rfl⟩
  | uncheck locates typed only =>
    refine ⟨readClear, .clear, bindOk.mpr ⟨_, typedIff.mpr (.given typed), ?_⟩⟩
    exact clearedIff.mpr ⟨_, locates, only, rfl⟩
  | single group locates gives only =>
    have expects := Expected.ofDirectiveIff.mpr (.one gives (only.absent (by decide)))
    refine ⟨_, group.isReader _ _, bindOk.mpr ⟨_, locatedIff.mpr locates, ?_⟩⟩
    refine bindOk.mpr ⟨_, expects, ?_⟩
    exact mapOk.mpr ⟨(), finished only (by decide), rfl⟩
  | several group locates gives only =>
    have expects := Expected.ofDirectiveIff.mpr (.many gives (only.absent (by decide)))
    refine ⟨_, group.isReader _ _, bindOk.mpr ⟨_, locatedIff.mpr locates, ?_⟩⟩
    refine bindOk.mpr ⟨_, expects, ?_⟩
    exact mapOk.mpr ⟨(), finished only (by decide), rfl⟩
  | alert answered only =>
    refine ⟨readAlert, .alert,
      bindOk.mpr ⟨_, (Directive.valueIff fun _ _ => Answer.readsIff).mpr answered, ?_⟩⟩
    exact mapOk.mpr ⟨(), finished only (by decide), rfl⟩
  | switchTo framed only =>
    refine ⟨readSwitchTo, .switchTo, ?_⟩
    have ended := finished only (List.Subset.refl ["timeout"])
    unfold readSwitchTo
    cases framed with
    | top named =>
      rw [named, ended]
      rfl
    | within locates =>
      dsimp only
      rw [locatedIff.mpr locates, ended]
      split
      · next found body =>
        rw [body] at locates
        cases locates with
        | reference found => cases found
        | literal found => cases found
      · rfl

theorem StandsIn.answered {answer : Answer} {body : Json} {rest : Fields}
    (stands : (Deed.alert answer).StandsIn answers body rest) : answers body answer := by
  generalize same : Deed.alert answer = deed at stands
  cases stands with
  | alert answered => cases same; exact answered
  | single group => cases group <;> cases same
  | several group => cases group <;> cases same
  | _ => cases same

theorem alertOfDirective {deed : Deed} (directive : deed.directive = "alert") :
    ∃ answer, deed = .alert answer := by
  cases deed with
  | alert answer => exact ⟨answer, rfl⟩
  | _ => simp [Deed.directive] at directive

theorem StandsIn.only {deed : Deed} {body : Json} {rest : Fields}
    (stands : deed.StandsIn answers body rest) :
    rest.Only ["timeout", "value", "values", "type"] := by
  cases stands <;> exact Keyed.Only.mono ‹_› (by decide)

end Deed

structure Action.StandsIn (answers : Json → Answer → Prop) (fields : Fields) (a : Action) :
    Prop where
  sole : ∀ name ∈ fields.names, Directive.IsPlain modifierKeys name ↔ name = a.directive
  does : ∃ body, fields.get? a.directive = some body ∧
    a.deed.StandsIn answers body (fields.erase a.directive)
  timed : (fields.erase a.directive).May "timeout" Json.IsNatural a.timeout

namespace Action

theorem readIff {fields : Fields} (distinct : fields.names.Nodup) {a : Action} :
    ofFields fields = .ok a ↔ a.StandsIn Answer.Reads fields := by
  constructor
  · intro read
    obtain ⟨d, split, read⟩ := bindOk.mp read
    obtain ⟨reader, chosen, read⟩ := bindOk.mp read
    obtain ⟨timeout, timed, read⟩ := bindOk.mp read
    obtain ⟨deed, done, rfl⟩ := mapOk.mp read
    have stands := (Directive.splitIff distinct).mp split
    have known := Deed.readerIff.mp (Directive.chooseIff.mp chosen)
    obtain ⟨named, does⟩ := Deed.readersSound known done
    have timed := Directive.timeoutIff.mp timed
    have same : directive { deed, timeout } = d.name := named
    rw [stands.rest, ← same] at does timed
    refine ⟨?_, ⟨d.body, ?_, does⟩, timed⟩
    · rw [same]
      exact stands.sole
    · rw [same]
      exact stands.body
  · rintro ⟨sole, ⟨body, found, does⟩, timed⟩
    let d : Directive := ⟨a.directive, body, fields.erase a.directive⟩
    have stands : d.StandsIn modifierKeys fields := ⟨found, rfl, sole⟩
    obtain ⟨read, known, done⟩ := Deed.readersComplete (d := d) does
    refine bindOk.mpr ⟨d, (Directive.splitIff distinct).mpr stands, ?_⟩
    refine bindOk.mpr ⟨read, Directive.chooseIff.mpr (Deed.readerIff.mpr known), ?_⟩
    refine bindOk.mpr ⟨a.timeout, Directive.timeoutIff.mpr timed, ?_⟩
    exact bindOk.mpr ⟨a.deed, done, rfl⟩

theorem StandsIn.uncounted {fields : Fields} {a : Action} (stands : a.StandsIn answers fields)
    {name : String} (member : name ∈ fields.names) :
    name ≠ "count" ∧ ∀ attr, name ≠ "attr_" ++ attr := by
  by_cases directive : name = a.directive
  · have plain := (stands.sole name member).mpr directive
    exact ⟨fun same => plain.1 (same ▸ by decide), plain.2⟩
  · obtain ⟨body, _, does⟩ := stands.does
    have known := does.only name (Keyed.keptName member directive)
    have others : ["timeout", "value", "values", "type"] ⊆ Assertion.modifierKeys := by decide
    refine ⟨?_, Demand.unnamedModifiers _ (others known)⟩
    rintro same
    rw [same] at known
    exact absurd known (by decide)

theorem readByDeedGrammar (fields : Fields) (distinct : fields.names.Nodup) :
    (∀ a, ofFields fields = .ok a ↔ a.StandsIn Answer.Reads fields) ∧
    (∀ a, ofFields fields = .ok a → ∀ name ∈ fields.names,
      name ≠ "count" ∧ ∀ attr, name ≠ "attr_" ++ attr) ∧
    ∀ failure, (ofFields fields).mapError Failure.scenario = .error failure →
      failure.isConfiguration = true := by
  refine ⟨fun a => readIff distinct, fun a read name member => ?_, fun failure failed => ?_⟩
  · exact ((readIff distinct).mp read).uncounted member
  · cases outcome : ofFields fields <;> rw [outcome] at failed <;> cases failed
    rfl

def pickPear : Fields :=
  [("select", .record [("css", .text "select")]), ("timeout", .nat 500), ("value", .text "pear")]

def pearPicked : Action where
  deed := .select (.value { strategy := .css, selector := "select" }) [.value "pear"]
  timeout := some 500

def pickOnePear : Fields := ("count", .nat 1) :: pickPear

theorem readByDeedGrammarPear :
    pickPear.names.Nodup ∧ pearPicked.StandsIn Answer.Reads pickPear ∧
    pickOnePear.names.Nodup ∧ ∀ a : Action, ¬ a.StandsIn Answer.Reads pickOnePear := by
  have distinct : pickPear.names.Nodup := by decide
  have distinct' : pickOnePear.names.Nodup := by decide
  have read : ofFields pickPear = .ok pearPicked := rfl
  refine ⟨distinct, ((readByDeedGrammar pickPear distinct).1 pearPicked).mp read, distinct', ?_⟩
  intro a stands
  have accepted := ((readByDeedGrammar _ distinct').1 a).mpr stands
  exact ((readByDeedGrammar _ distinct').2.1 a accepted "count" List.mem_cons_self).1 rfl

def acceptRecord : Fields := [("alert", .record [("accept", .null)])]

theorem answerReadFromRecord :
    acceptRecord.names.Nodup ∧
    ofFields acceptRecord = .ok { deed := .alert .accept, timeout := none } ∧
    ∀ a : Action, ¬ a.StandsIn Answer.Named acceptRecord := by
  refine ⟨by decide, rfl, fun a stands => ?_⟩
  have plain : Directive.isModifier modifierKeys "alert" = false := by decide +kernel
  have directive : "alert" = a.directive :=
    (stands.sole "alert" List.mem_cons_self).mp (Directive.plainIff.mp plain)
  obtain ⟨answer, alerts⟩ := Deed.alertOfDirective directive.symm
  obtain ⟨body, found, does⟩ := stands.does
  rw [alerts] at does
  rw [← directive] at found
  cases found
  exact nomatch does.answered

end Action

end PageCheck
