import PageCheck.Proofs.Innermost

/-!
A step that does nothing but hold a nested scenario. Its run is the run of the nested scenario, and
one step more is counted. All that it does by itself is to look at the console.
-/
namespace PageCheck.Run

variable {context : RunContext} {list : Scenario} {w after : Browser.World}

theorem tellingOwn {debug : Bool} (own : context.settings.debug = debug) :
    context.telling debug = context := by
  subst own
  rfl

theorem toldOnPage {failure : Failure} (debug : context.settings.debug = false)
    (failed : scenario context list w = .error failure after) :
    ∃ body cause, failure = .reported (pageContext after body) cause ∧
      cause.isReported = false ∧
      ArisesAmong (context.telling true) list w body cause after := by
  have twin := scenarioTwin context list w
  rw [tellingOwn debug, failed] at twin
  generalize scenario (context.telling true) list w = bare at twin
  generalize same : EStateM.Result.error failure after = result at twin
  cases twin with
  | ok tally t => cases same
  | @told body cause t bare source =>
    cases same.trans (raiseOnPage body bare t)
    exact ⟨body, cause, rfl, bare, source⟩

theorem failsSettled {failure : Failure}
    (failed : scenario context list w = .error failure after) :
    (context.settings.debug || failure.isReported) = true := by
  cases debug : context.settings.debug with
  | true => rfl
  | false =>
    obtain ⟨body, cause, rfl, _⟩ := toldOnPage debug failed
    rfl

theorem idleOnEmptyConsole (context : RunContext) (empty : w.session.console = []) :
    ownWork context .empty w = .ok (some .none) w := by
  obtain ⟨session, now⟩ := w
  cases session
  cases empty
  rfl

theorem nestingRuns {tally : Tally} (empty : w.session.console = [])
    (ran : scenario context list w = .ok tally after) :
    scenario context [.nesting list] w = .ok { tally with steps := tally.steps + 1 } after := by
  have entered : enter (nestedOf context (some list)) w = .ok tally after := by
    rw [enterNested, ran]
  have done : step context (.nesting list) w = .ok (.done, .none + (tally + .oneStep)) after :=
    stepEnds rfl (idleOnEmptyConsole context empty) entered
  rw [firstDone [] done, scenarioNil, pure_bind, Tally.noneAdd]
  rfl

theorem nestingFails {failure : Failure} (empty : w.session.console = [])
    (failed : scenario context list w = .error failure after) :
    scenario context [.nesting list] w = .error failure after := by
  have entered : enter (nestedOf context (some list)) w = .error failure after := by
    rw [enterNested, failed]
  have told : step context (.nesting list) w =
      Report.raise context.settings.debug .empty failure after :=
    stepFailsInside rfl (idleOnEmptyConsole context empty) entered
  -- the inner failure has its page context already, or none is wanted
  rw [Report.raiseSettled (failsSettled failed)] at told
  exact firstFails [] told

theorem nestingTransparent (context : RunContext) (list : Scenario) {w : Browser.World}
    (empty : w.session.console = []) :
    (∀ tally after, scenario context list w = .ok tally after →
      scenario context [.nesting list] w =
        .ok { tally with steps := tally.steps + 1 } after) ∧
    (∀ failure after, scenario context list w = .error failure after →
      scenario context [.nesting list] w = .error failure after ∧
      (context.settings.debug = false → ∃ body cause,
        failure = .reported (pageContext after body) cause ∧ cause.isReported = false ∧
        ArisesAmong (context.telling true) list w body cause after)) :=
  ⟨fun _ _ => nestingRuns empty,
    fun _ _ failed => ⟨nestingFails empty failed, fun debug => toldOnPage debug failed⟩⟩

theorem nestingTransparentOnBlank :
    (Browser.World.start []).session.console = [] ∧
    scenario noEntries [.nesting refusals] (Browser.World.start []) =
      .ok { steps := 4, skipped := 2, navigations := 0 } (.start []) ∧
    scenario noEntries [.nesting [unknownPage]] (Browser.World.start []) =
      .error (.reported (pageContext (.start []) unknownPage.body) (.missingPlaceholder "page"))
        (.start []) := by
  have blank : (Browser.World.start []).session.console = [] := rfl
  have ran : scenario noEntries refusals (Browser.World.start []) =
    .ok { steps := 3, skipped := 2, navigations := 0 } (.start []) := rfl
  have failed : scenario noEntries [unknownPage] (Browser.World.start []) =
    .error (.reported (pageContext (.start []) unknownPage.body) (.missingPlaceholder "page"))
      (.start []) := rfl
  exact ⟨blank, (nestingTransparent noEntries refusals blank).1 _ _ ran,
    ((nestingTransparent noEntries [unknownPage] blank).2 _ _ failed).1⟩

end PageCheck.Run
