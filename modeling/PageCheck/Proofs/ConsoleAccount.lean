import PageCheck.Proofs.Observed
import PageCheck.Proofs.PhaseInvariant
import PageCheck.Proofs.TextSearch

/-!
What a passing run says about the console. Every entry that comes in is taken out by exactly one
scan, in order, and every scan passes. A scan judges by the address that is current when it takes
the entries; so an entry escapes the judgement of its own page when another page is loaded before
the scan.
-/
namespace PageCheck.Browser.Observed

def Clean : List Batch → Prop := fun batches => ∀ b ∈ batches, Console.scan b.page b.entries = none

def Settled (o : Observed) : Prop := OfBatches Clean o ∧ o.world.session.console = []

def Accounted : Phase → Observed → Prop
  | .actions | .checks => OfBatches Clean
  | _ => Settled

theorem scanConsoleSettles : Ensures (OfBatches Clean) Run.scanConsole fun _ => Settled := by
  intro o value after clean answered
  simp only [Run.scanConsole, Check.ask, Bind.bind, EStateM.bind, Host.currentUrl, silently,
    World.look, Host.drainConsole, drainConsole, World.drainConsole] at answered
  cases scanned : Console.scan o.world.session.url o.world.session.console with
  | some failure =>
    simp only [scanned] at answered
    cases answered
  | none =>
    simp only [scanned] at answered
    cases answered
    refine ⟨fun b member => ?_, rfl⟩
    rcases List.mem_append.mp member with old | new
    · exact clean b old
    · cases List.mem_singleton.mp new
      exact scanned

theorem navigateTakes (settings : CheckSettings) (body : StepBody) :
    Ensures Settled (Run.navigate settings body) fun _ => OfBatches Clean := by
  have scanned : Ensures (OfBatches Clean) (do Run.scanConsole; return true)
      fun _ => OfBatches Clean := scanConsoleSettles.bind fun _ => .pure fun _ settled => settled.1
  have visited (url : Deferred String) :
      Ensures (OfBatches Clean) (Run.visit settings url) fun _ => OfBatches Clean :=
    .ofKeeps (actsOnBatches.visit settings url fun _ => notingKeepsBatches _ _)
  have followed (link : Deferred Locator) :
      Ensures (OfBatches Clean) (Run.follow settings link) fun _ => OfBatches Clean :=
    .ofKeeps (actsOnBatches.follow settings link)
  refine .ite (fun _ => ?_) fun _ => .pure fun _ settled => settled.1
  refine .bind (Q := fun _ => OfBatches Clean) (scanConsoleSettles.weaken
    (fun _ settled => settled.1) fun _ _ settled => settled.1) fun _ => ?_
  cases body.url <;> cases body.link
  case none.none => exact scanned
  case none.some link => exact (followed link).bind fun _ => scanned
  case some.none url => exact (visited url).bind fun _ => scanned
  case some.some url link => exact (visited url).bind fun _ => (followed link).bind fun _ => scanned

theorem accounted (context : RunContext) : Run.PhaseInvariant context Accounted where
  emit {phase _} _ held := by cases phase <;> exact held
  guarded held := held
  unguarded held := held
  guard g := by
    have keeps : Keeps Settled (g.evaluate context.settings context.predicates) :=
      (looks fun _ _ _ held => held).evaluate context.settings context.predicates g
    exact (Ensures.ofKeeps keeps).weaken (fun _ held => held) fun holds _ held => by
      cases holds <;> exact held
  navigate body := navigateTakes context.settings body
  perform action := .ofKeeps (actsOnBatches.perform context.settings action)
  acted held := held
  verify a := .ofKeeps (actsOnBatches.verify context.settings context.predicates a)
  scan := scanConsoleSettles
  enter held := held
  leave held := held
  finish {phase _} final held := by
    cases phase with
    | done => exact held
    | aborted => exact held
    | _ => cases final

theorem observedRun {context : RunContext} {s : Scenario} {w w' : World} {tally : Tally}
    (empty : w.session.console = []) (passed : Run.scenario context s w = .ok tally w') :
    ∃ o, Run.scenario context s (start w) = .ok tally o ∧ Follows w' o ∧ Settled o := by
  have same := follows.scenario context s w (start w) ⟨rfl, by simp [start, empty]⟩
  rw [passed] at same
  generalize observed : Run.scenario context s (start w) = outcome at same
  cases same with
  | @ok _ _ o related =>
    have before : Settled (start w) := ⟨by simp [OfBatches, Clean, start], empty⟩
    exact ⟨o, rfl, related, (accounted context).scenarioEnsures s _ _ _ before observed⟩

theorem judgedOfClean {batches : List Batch} (clean : Clean batches) {t : Logged}
    (member : t ∈ batches.flatMap Batch.taken) : Console.judge t.page t.entry = none := by
  obtain ⟨b, inBatches, inBatch⟩ := List.mem_flatMap.mp member
  obtain ⟨entry, inEntries, rfl⟩ := List.mem_map.mp inBatch
  exact List.findSome?_eq_none_iff.mp (clean b inBatches) entry inEntries

theorem takenEntries (batches : List Batch) :
    (batches.flatMap Batch.taken).map Logged.entry = batches.flatMap Batch.entries := by
  simp [List.map_flatMap, Batch.taken, Function.comp_def]

theorem judgedWithoutScriptError {page entry : String} (passes : Console.judge page entry = none) :
    Console.namesScriptError entry = false := by
  unfold Console.judge at passes
  split at passes
  · cases passes
  · next differs => exact Bool.eq_false_iff.mpr differs

theorem noScriptErrorIn {entry : String} (clean : Console.namesScriptError entry = false)
    {name : String} (known : name ∈ Console.scriptErrors) : ¬ name.toList <:+: entry.toList := by
  intro part
  have found : Console.namesScriptError entry = true :=
    List.any_eq_true.mpr ⟨name, known, Text.occursIffInfix.mpr part⟩
  rw [clean] at found
  cases found

theorem judgedElsewhere {page entry : String} (other : String)
    (passes : Console.judge page entry = none) :
    Console.judge other entry = none ∨
      ∃ code, Console.judge other entry = some (.status code entry) := by
  have clean := judgedWithoutScriptError passes
  cases judged : Console.judge other entry with
  | none => exact .inl rfl
  | some failure =>
    simp only [Console.judge, clean, Bool.false_eq_true, if_false, bind,
      Option.bind_eq_some_iff] at judged
    obtain ⟨text, _, code, _, same⟩ := judged
    cases Option.some.inj same
    exact .inr ⟨code, rfl⟩

theorem scanOne (page entry : String) : Console.scan page [entry] = Console.judge page entry := by
  unfold Console.scan
  cases judged : Console.judge page entry <;> simp [judged]

def displayed (tag id : String) (onClick : List Effect) : Node :=
  { tag, text := id, attrs := [("id", id)], selected := false, hidden := false, parent := none,
    frame := none, appearAfter := none, removeAfter := none, onClick }

def firstPage (entry : String) : Page :=
  { html := "<a>", nodes := [displayed "a" "next" [.navigate "http://b/"]], logs := [entry] }

def secondPage : Page :=
  { html := "<b>", nodes := [displayed "button" "more" [.log "more"]], logs := [] }

def linked (entry : String) : World :=
  .start [("http://a/", firstPage entry), ("http://b/", secondPage)]

def byId (id : String) : Deferred Locator := .value { strategy := .id, selector := id }

def leaving : StepBody :=
  { StepBody.empty with url := some (.value "http://a/"), link := some (byId "next") }

def leavingThenClicking : Scenario :=
  [{ body := leaving,
     nested := some [.acting [{ deed := .click (byId "more"), timeout := none }]] }]

def atOnce : RunContext :=
  { settings := { CheckSettings.default with timeout := 0 }, predicates := [], mapping := [] }

def passed? {σ : Type} : EStateM.Result Failure σ Tally → Option (Tally × σ)
  | .ok tally after => some (tally, after)
  | .error .. => none

theorem okOfPassed {σ : Type} {outcome : EStateM.Result Failure σ Tally}
    (passes : (passed? outcome).isSome = true) : ∃ tally after, outcome = .ok tally after := by
  cases outcome with
  | ok tally after => exact ⟨tally, after, rfl⟩
  | error failure after => cases passes

theorem consoleAccountedFor {context : RunContext} {s : Scenario} {w w' : World} {tally : Tally}
    (empty : w.session.console = []) (passed : Run.scenario context s w = .ok tally w') :
    ∃ o, Run.scenario context s (start w) = .ok tally o ∧ o.world = w' ∧
      w'.session.console = [] ∧
      (o.batches.map Batch.entries).flatten = o.logged.map Logged.entry ∧
      ∀ m ∈ o.logged, ∀ name ∈ Console.scriptErrors, ¬ name.toList <:+: m.entry.toList := by
  obtain ⟨o, observed, following, clean, drained⟩ := observedRun empty passed
  have balanced := following.balanced
  rw [← following.world, drained, List.append_nil] at balanced
  refine ⟨o, observed, following.world, following.world ▸ drained, ?_, ?_⟩
  · rw [← List.flatMap_def, balanced]
  · intro m member name known
    have logged : m.entry ∈ o.logged.map Logged.entry := List.mem_map_of_mem member
    rw [balanced, ← takenEntries] at logged
    obtain ⟨t, taken, same⟩ := List.mem_map.mp logged
    rw [← same]
    exact noScriptErrorIn (judgedWithoutScriptError (judgedOfClean clean taken)) known

theorem consoleAccountedForNested : ∃ tally w' o,
    Run.scenario atOnce leavingThenClicking (linked "loaded") = .ok tally w' ∧
    Run.scenario atOnce leavingThenClicking (start (linked "loaded")) = .ok tally o ∧
      o.world = w' ∧ w'.session.console = [] ∧
      (o.batches.map Batch.entries).flatten = o.logged.map Logged.entry ∧
      ∀ m ∈ o.logged, ∀ name ∈ Console.scriptErrors, ¬ name.toList <:+: m.entry.toList := by
  have passes :
      (passed? (Run.scenario atOnce leavingThenClicking (linked "loaded"))).isSome = true := by
    decide +kernel
  obtain ⟨tally, w', passed⟩ := okOfPassed passes
  obtain ⟨o, accounts⟩ := consoleAccountedFor rfl passed
  exact ⟨tally, w', o, passed, accounts⟩

/-- Entries pass the scan of their own page exactly when none with a failing status of that page
is taken out under another address. -/
theorem ownPagePassed {context : RunContext} {s : Scenario} {w w' : World} {tally : Tally}
    (empty : w.session.console = []) (passed : Run.scenario context s w = .ok tally w') :
    ∃ o, Run.scenario context s (start w) = .ok tally o ∧ o.world = w' ∧
      o.taken.map Logged.entry = o.logged.map Logged.entry ∧
      ((∀ m ∈ o.logged, Console.scan m.page [m.entry] = none) ↔
        ∀ pair ∈ o.logged.zip o.taken, pair.1.page ≠ pair.2.page →
          ∀ code, Console.scan pair.1.page [pair.1.entry] ≠ some (.status code pair.1.entry)) := by
  obtain ⟨o, observed, following, clean, drained⟩ := observedRun empty passed
  have balanced := following.balanced
  rw [← following.world, drained, List.append_nil, ← takenEntries] at balanced
  refine ⟨o, observed, following.world, balanced.symm, ?_, ?_⟩
  · intro own pair member _ code failing
    rw [own pair.1 (List.of_mem_zip member).1] at failing
    cases failing
  · intro overtaken m member
    -- the entry that comes in at this place is the one that is taken out at this place
    obtain ⟨index, inside, atIndex⟩ := List.mem_iff_getElem.mp member
    have lengths := congrArg List.length balanced
    simp only [List.length_map] at lengths
    have inTaken : index < o.taken.length := lengths ▸ inside
    have same : m.entry = o.taken[index].entry := by
      have entries : (o.logged.map Logged.entry)[index]? = (o.taken.map Logged.entry)[index]? :=
        congrArg (fun entries => entries[index]?) balanced
      rw [List.getElem?_map, List.getElem?_map, List.getElem?_eq_getElem inside,
        List.getElem?_eq_getElem inTaken, atIndex] at entries
      exact Option.some.inj entries
    have judged : Console.judge o.taken[index].page m.entry = none := by
      rw [same]
      exact judgedOfClean clean (List.getElem_mem inTaken)
    rw [scanOne]
    by_cases page : m.page = o.taken[index].page
    · rw [page]
      exact judged
    · rcases judgedElsewhere m.page judged with passes | ⟨code, failing⟩
      · exact passes
      · have inZip : index < (o.logged.zip o.taken).length := by
          rw [List.length_zip]
          exact Nat.lt_min.mpr ⟨inside, inTaken⟩
        have paired : (m, o.taken[index]) ∈ o.logged.zip o.taken :=
          List.mem_iff_getElem.mpr ⟨index, inZip, by rw [List.getElem_zip, atIndex]⟩
        exact (overtaken _ paired page code (by rw [scanOne]; exact failing)).elim

theorem ownPagePassedWhenStaying : ∃ tally w' o,
    Run.scenario atOnce [.ofBody leaving] (linked "loaded") = .ok tally w' ∧
    Run.scenario atOnce [.ofBody leaving] (start (linked "loaded")) = .ok tally o ∧
      o.world = w' ∧ o.taken.map Logged.entry = o.logged.map Logged.entry ∧
      ((∀ m ∈ o.logged, Console.scan m.page [m.entry] = none) ↔
        ∀ pair ∈ o.logged.zip o.taken, pair.1.page ≠ pair.2.page →
          ∀ code, Console.scan pair.1.page [pair.1.entry] ≠ some (.status code pair.1.entry)) := by
  have passes : (passed? (Run.scenario atOnce [.ofBody leaving] (linked "loaded"))).isSome = true :=
    by decide +kernel
  obtain ⟨tally, w', passed⟩ := okOfPassed passes
  obtain ⟨o, judged⟩ := ownPagePassed rfl passed
  exact ⟨tally, w', o, passed, judged⟩

def notFoundEntry : String := "http://a/ - status of 404 ()"

theorem entryEscapesOwnPage : (linked notFoundEntry).session.console = [] ∧ ∃ tally o,
    Run.scenario atOnce [.ofBody leaving] (linked notFoundEntry) = .ok tally o.world ∧
    Run.scenario atOnce [.ofBody leaving] (start (linked notFoundEntry)) = .ok tally o ∧
    o.logged = [{ page := "http://a/", entry := notFoundEntry }] ∧
    o.taken = [{ page := "http://b/", entry := notFoundEntry }] ∧
    Console.scan "http://a/" [notFoundEntry] = some (.status 404 notFoundEntry) := by
  have passes : (passed? (Run.scenario atOnce [.ofBody leaving] (linked notFoundEntry))).isSome =
      true := by decide +kernel
  obtain ⟨tally, w', passed⟩ := okOfPassed passes
  obtain ⟨o, observed, following, -⟩ := observedRun rfl passed
  have notes : (passed? (Run.scenario atOnce [.ofBody leaving] (start (linked notFoundEntry)))).map
      (fun found => (found.2.logged, found.2.taken)) =
      some ([{ page := "http://a/", entry := notFoundEntry }],
        [{ page := "http://b/", entry := notFoundEntry }]) := by decide +kernel
  rw [observed] at notes
  have noted := Prod.mk.inj (Option.some.inj notes)
  exact ⟨rfl, tally, o, following.world ▸ passed, observed, noted.1, noted.2, rfl⟩

end PageCheck.Browser.Observed
