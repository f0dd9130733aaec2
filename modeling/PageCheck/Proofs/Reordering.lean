import Mathlib.Data.List.Perm.Basic
import PageCheck.Proofs.OppositeChecks

/-!
Checks and the order of things. What is expected and what is found are compared up to order, so
neither the order of the expected values nor that of the elements matters to a relation between
them. One thing does depend on the order of the elements: without a declared type the first match
decides how all of them are read.
-/
namespace PageCheck

open Browser (World Node readingAs chosenValues)

structure Extracted.Reordered (found' found : Extracted) : Prop where
  values : found'.values.Perm found.values
  reading : found'.reading = found.reading
  matched : found'.matched = found.matched

namespace Browser.World

def reordered (w : World) (nodes : List Node) : World :=
  { w with session := { w.session with nodes } }

def ReadsAlike (w' w : World) (kind : Option ValueKind) : Target → Prop
  | .element (.value l) => readingAs kind (w'.matching l) = readingAs kind (w.matching l)
  | .element (.reference _) | .html | .url => True

variable {w : World} {nodes : List Node}

theorem readsAlikeDeclared (w' w : World) (kind : ValueKind) (target : Target) :
    ReadsAlike w' w (some kind) target := by
  match target with
  | .html => trivial
  | .url => trivial
  | .element (.reference _) => trivial
  | .element (.value l) => cases kind <;> rfl

theorem presentReordered (perm : nodes.Perm w.session.nodes) (p : Node → Bool) :
    ((w.reordered nodes).present p).Perm (w.present p) :=
  perm.filter _

theorem chosenReordered {found found' : List Node} (perm : found'.Perm found) :
    (chosenValues found').Perm (chosenValues found) :=
  (perm.filter _).map _

theorem valuesReordered (perm : nodes.Perm w.session.nodes) (reading : Reading)
    {found found' : List Node} (matches' : found'.Perm found) :
    ((w.reordered nodes).valuesOf reading found').Perm (w.valuesOf reading found) := by
  cases reading with
  | attr name => exact matches'.map _
  | select =>
    have options (select : Node) : (chosenValues ((w.reordered nodes).optionsOf select)).Perm
        (chosenValues (w.optionsOf select)) := chosenReordered (presentReordered perm _)
    exact matches'.flatMap fun select _ => options select
  | checkbox => exact chosenReordered matches'
  | radio => exact chosenReordered matches'
  | input => exact matches'.map _
  | innerText => exact matches'.map _
  | html => exact matches'.map _
  | url => exact matches'.map _

theorem extractedReordered (perm : nodes.Perm w.session.nodes) {kind : Option ValueKind}
    {found found' : List Node} (matches' : found'.Perm found)
    (alike : readingAs kind found' = readingAs kind found) :
    Option.Rel Extracted.Reordered ((w.reordered nodes).extracted kind found')
      (w.extracted kind found) := by
  cases found' with
  | nil =>
    cases matches'.nil_eq
    exact .none
  | cons first' rest' =>
    cases found with
    | nil => cases matches'.eq_nil
    | cons first rest =>
      refine .some ⟨?_, alike, matches'.length_eq⟩
      show ((w.reordered nodes).valuesOf (readingAs kind (first' :: rest')) _).Perm _
      rw [alike]
      exact valuesReordered perm _ matches'

theorem extractionReordered (perm : nodes.Perm w.session.nodes) {kind : Option ValueKind}
    {target : Target} (alike : ReadsAlike (w.reordered nodes) w kind target) :
    Option.Rel Extracted.Reordered ((w.reordered nodes).extraction kind target)
      (w.extraction kind target) := by
  match target with
  | .html => exact .some ⟨.refl _, rfl, rfl⟩
  | .url => exact .some ⟨.refl _, rfl, rfl⟩
  | .element (.reference _) => exact .none
  | .element (.value l) => exact extractedReordered perm (presentReordered perm _) alike

end Browser.World

theorem relatesReordered {expected expected' found found' : List String}
    (asked : expected'.Perm expected) (read : found'.Perm found) (relation : Relation) :
    relation.Relates expected' found' ↔ relation.Relates expected found := by
  have same : found'.Perm expected' ↔ found.Perm expected :=
    ⟨fun perm => read.symm.trans (perm.trans asked),
      fun perm => read.trans (perm.trans asked.symm)⟩
  cases relation with
  | equals => exact same
  | notEquals => exact not_congr same
  | checked => simp only [Relation.Relates, asked.mem_iff, read.mem_iff]
  | selected => simp only [Relation.Relates, asked.mem_iff, read.mem_iff]
  | unchecked => simp only [Relation.Relates, asked.mem_iff, read.mem_iff]
  | unselected => simp only [Relation.Relates, asked.mem_iff, read.mem_iff]

theorem testReordered {expected expected' found found' : List String}
    (asked : expected'.Perm expected) (read : found'.Perm found) (relation : Relation) :
    ValueCheck.relationTest relation expected' found' =
      ValueCheck.relationTest relation expected found := by
  rw [Bool.eq_iff_iff, ValueCheck.relationTestIff, ValueCheck.relationTestIff]
  exact relatesReordered asked read relation

/-- The same verdict, in which only the order of the values that are told may differ. -/
inductive SameVerdict : Except Failure Unit → Except Failure Unit → Prop
  | same (verdict : Except Failure Unit) : SameVerdict verdict verdict
  | mismatch {m m' : Mismatch} (directive : m'.directive = m.directive)
    (target : m'.target = m.target) (kind : m'.kind = m.kind)
    (expected : m'.expected.Perm m.expected) (actual : m'.actual.Perm m.actual) :
    SameVerdict (.error (.mismatch m')) (.error (.mismatch m))

namespace ValueCheck

def verdict (check : ValueCheck) (timeout : Nat) :
    Except Failure (Polled Unit (Option Extracted)) → Except Failure Unit
  | .ok (.ready ()) => .ok ()
  | .ok (.timedOut (some found)) => .error (.mismatch (check.mismatch found))
  | .ok (.timedOut none) =>
    .error (.noSuchElement check.directive check.target.describe timeout)
  | .error failure => .error failure

def noting {σ : Type} [Clock σ] (check : ValueCheck) (s : σ) :
    Except Failure (Polled Unit (Option Extracted)) → σ
  | .ok (.timedOut (some _)) => Clock.emit (.valueTimedOut check.directive) s
  | _ => s

variable {σ E : Type} [Host σ E]

theorem verifyEnds {check : ValueCheck} {p : Poller} {s t : σ}
    {polled : Except Failure (Polled Unit (Option Extracted))}
    (ran : p.run check.look s = resultIn polled t) :
    check.verify p s = resultIn (check.verdict p.timeout polled) (check.noting t polled) := by
  unfold ValueCheck.verify
  match polled with
  | .error failure => exact bindOfError ran _
  | .ok (.ready ()) => exact bindOfOk ran _
  | .ok (.timedOut (some found)) => exact bindOfOk ran _
  | .ok (.timedOut none) => exact bindOfOk ran _

theorem verifyEndsOn {check : ValueCheck} {p : Poller} {w page : World}
    {polled : Except Failure (Polled Unit (Option Extracted))}
    (ran : p.run check.look w = resultIn polled page) :
    check.verify p w = resultIn (check.verdict p.timeout polled) page := by
  rw [verifyEnds ran]
  match polled with
  | .error failure => rfl
  | .ok (.ready ()) => rfl
  | .ok (.timedOut (some found)) => rfl
  | .ok (.timedOut none) => rfl

end ValueCheck

def Subject.relates (s : Subject) (relation : Relation) (values : List String) : ValueCheck :=
  { directive := relation.directive, target := s.target, kind := s.kind, count := s.count
    expected := values
    test := fun actual => .ok (ValueCheck.relationTest relation values actual) }

inductive SameSight : Except Failure (Attempt Unit (Option Extracted)) →
    Except Failure (Attempt Unit (Option Extracted)) → Prop
  | same (sight : Except Failure (Attempt Unit (Option Extracted))) : SameSight sight sight
  | refused {found found' : Extracted} (reordered : found'.Reordered found) :
    SameSight (.ok (.again (some found'))) (.ok (.again (some found)))

section Reordered

variable {s : Subject} {relation : Relation} {values values' : List String} {w w' : World}

theorem verdictReordered (asked : values'.Perm values) (timeout : Nat)
    (polled : Except Failure (Polled Unit (Option Extracted))) :
    SameVerdict ((s.relates relation values').verdict timeout polled)
      ((s.relates relation values).verdict timeout polled) := by
  match polled with
  | .error failure => exact .same _
  | .ok (.ready ()) => exact .same _
  | .ok (.timedOut (some found)) => exact .mismatch rfl rfl rfl asked (.refl _)
  | .ok (.timedOut none) => exact .same _

namespace SameSight

variable {sight sight' : Except Failure (Attempt Unit (Option Extracted))}

theorem undecided (seen : SameSight sight' sight) :
    Poller.isUndecided sight = Poller.isUndecided sight' := by
  cases seen <;> rfl

theorem done (seen : SameSight sight' sight) :
    sight'.map Attempt.isDone = sight.map Attempt.isDone := by
  cases seen <;> rfl

theorem verdict (seen : SameSight sight' sight) (asked : values'.Perm values) (timeout : Nat) :
    SameVerdict ((s.relates relation values').verdict timeout (sight'.map Poller.ending))
      ((s.relates relation values).verdict timeout (sight.map Poller.ending)) := by
  cases seen with
  | same => exact verdictReordered asked timeout _
  | refused reordered =>
    refine .mismatch rfl rfl ?_ asked reordered.values
    simp only [ValueCheck.mismatch, reordered.reading, reordered.matched]
    rfl

end SameSight

theorem holdsReordered (asked : values'.Perm values) {found found' : Extracted}
    (reordered : found'.Reordered found) :
    (s.relates relation values').holds found' =
      (s.relates relation values).holds found := by
  have counted : (s.relates relation values').miscounted found' =
      (s.relates relation values).miscounted found := by
    simp only [ValueCheck.miscounted, reordered.matched]
    rfl
  have tested : (s.relates relation values').test found'.values =
      (s.relates relation values).test found.values :=
    congrArg Except.ok (testReordered asked reordered.values relation)
  rw [ValueCheck.holds, ValueCheck.holds, counted, tested]

theorem valuesSeenReordered (asked : values'.Perm values)
    (read : Option.Rel Extracted.Reordered (w'.extraction s.kind s.target)
      (w.extraction s.kind s.target)) :
    SameSight (w'.valuesSeen (s.relates relation values'))
      (w.valuesSeen (s.relates relation values)) := by
  unfold World.valuesSeen Subject.relates
  generalize w'.extraction s.kind s.target = found', w.extraction s.kind s.target = found at read ⊢
  cases read with
  | none => exact .same _
  | some reordered =>
    have held : (s.relates relation values').holds _ = (s.relates relation values).holds _ :=
      holdsReordered asked reordered
    unfold Subject.relates at held
    dsimp only
    rw [held]
    rcases ValueCheck.holds _ _ with failure | _ | _
    · exact .same _
    · exact .refused reordered
    · exact .same _

theorem comparedReordered (asked : values'.Perm values)
    (read : Option.Rel Extracted.Reordered (w'.extraction s.kind s.target)
      (w.extraction s.kind s.target)) :
    SameSight (w'.compared (s.relates relation values'))
      (w.compared (s.relates relation values)) := by
  have seen : SameSight (w'.valuesSeen (s.relates relation values'))
      (w.valuesSeen (s.relates relation values)) := valuesSeenReordered asked read
  obtain ⟨target, kind, count⟩ := s
  match target with
  | .html => exact seen
  | .url => exact seen
  | .element (.value l) => exact seen
  | .element (.reference _) => exact .same _

end Reordered

section Verdicts

variable {σ E : Type} [Host σ E] {s : Subject} {relation : Relation}
  {expected expected' : Expected} {values values' : List String}

theorem relationVerifies (literal : expected.toList = values.map Deferred.value)
    (timeout : Option Nat) (settings : CheckSettings) (predicates : Predicates) (state : σ) :
    (s.compare (.relates relation expected) timeout).verify settings predicates state =
      (s.relates relation values).verify
        { timeout := timeout.getD settings.timeout, interval := settings.interval }
        (Clock.emit (.verifying relation.directive) state) := by
  have made := valueCheckMade (relationMade predicates relation literal) s
  refine (bindOfOk (t := Clock.emit (.verifying relation.directive) state) rfl _).trans ?_
  show (Check.ofExcept (ValueCheck.ofComparison predicates _) >>= fun check =>
    check.verify { timeout := timeout.getD settings.timeout, interval := settings.interval }) _ = _
  rw [made]
  exact bindOfOk rfl _

theorem relationHolds (literal : expected.toList = values.map Deferred.value)
    (timeout : Option Nat) (settings : CheckSettings) (predicates : Predicates) :
    ((s.compare (.relates relation expected) timeout).holds settings predicates : Check σ Bool) =
      Assertion.leniently relation.directive (s.relates relation values).holdsNow := by
  have made := valueCheckMade (relationMade predicates relation literal) s
  show (Check.ofExcept (ValueCheck.ofComparison predicates _) >>= fun check =>
    Assertion.leniently relation.directive check.holdsNow) = _
  rw [made]
  rfl

theorem holdsSame (asked : values'.Perm values) :
    (s.relates relation values').holds = (s.relates relation values).holds :=
  funext fun _ => holdsReordered asked ⟨.refl _, rfl, rfl⟩

theorem expectedReordered (literal : expected.toList = values.map Deferred.value)
    (literal' : expected'.toList = values'.map Deferred.value) (asked : values'.Perm values)
    (timeout : Option Nat) (settings : CheckSettings) (predicates : Predicates) (state : σ) :
    ∃ verdict verdict' after,
      (s.compare (.relates relation expected) timeout).verify settings predicates state =
        resultIn verdict after ∧
      (s.compare (.relates relation expected') timeout).verify settings predicates state =
        resultIn verdict' after ∧
      SameVerdict verdict' verdict := by
  have look : ((s.relates relation values').look : Check σ _) =
      (s.relates relation values).look := by
    unfold ValueCheck.look
    rw [holdsSame asked]
    rfl
  rw [relationVerifies literal, relationVerifies literal']
  generalize Poller.mk (timeout.getD settings.timeout) settings.interval = p
  obtain ⟨polled, t, ran⟩ := resultInOf (p.run (s.relates relation values).look)
    (Clock.emit (.verifying relation.directive) state)
  have ran' := ran
  rw [← look] at ran'
  exact ⟨_, _, _, ValueCheck.verifyEnds ran, ValueCheck.verifyEnds ran',
    verdictReordered asked _ _⟩

theorem expectedReorderedHolds (literal : expected.toList = values.map Deferred.value)
    (literal' : expected'.toList = values'.map Deferred.value) (asked : values'.Perm values)
    (timeout : Option Nat) (settings : CheckSettings) (predicates : Predicates) :
    ((s.compare (.relates relation expected') timeout).holds settings predicates : Check σ Bool) =
      (s.compare (.relates relation expected) timeout).holds settings predicates := by
  rw [relationHolds literal, relationHolds literal']
  unfold ValueCheck.holdsNow
  rw [holdsSame asked]
  rfl

variable {w : World} {nodes : List Node}

theorem elementsReordered (literal : expected.toList = values.map Deferred.value)
    (literal' : expected'.toList = values'.map Deferred.value) (asked : values'.Perm values)
    (timeout : Option Nat) (settings : CheckSettings) (predicates : Predicates)
    (perm : nodes.Perm w.session.nodes)
    (alike : ∀ time ≤ timeout.getD settings.timeout,
      World.ReadsAlike ((w.reordered nodes).pass time) (w.pass time) s.kind s.target) :
    ∃ elapsed ≤ timeout.getD settings.timeout, ∃ verdict verdict',
      (s.compare (.relates relation expected) timeout).verify settings predicates w =
        resultIn verdict (w.pass elapsed) ∧
      (s.compare (.relates relation expected') timeout).verify settings predicates
          (w.reordered nodes) =
        resultIn verdict' ((w.reordered nodes).pass elapsed) ∧
      SameVerdict verdict' verdict := by
  have seen (time : Nat) (inTime : time ≤ timeout.getD settings.timeout) :
      SameSight (((w.reordered nodes).pass time).compared (s.relates relation values'))
        ((w.pass time).compared (s.relates relation values)) := by
    have later : nodes.Perm (w.pass time).session.nodes := perm
    exact comparedReordered asked (World.extractionReordered later (alike time inTime))
  obtain ⟨elapsed, inTime, ran, ran', -⟩ :=
    (Poller.mk (timeout.getD settings.timeout) settings.interval).runTogether
      (fun page => page.comparedSees (s.relates relation values))
      (fun page => page.comparedSees (s.relates relation values'))
      (fun time inTime => (seen time inTime).undecided)
  rw [relationVerifies literal, relationVerifies literal']
  refine ⟨elapsed, inTime, _, _, ValueCheck.verifyEndsOn ran, ValueCheck.verifyEndsOn ran', ?_⟩
  exact (seen elapsed inTime).verdict asked _

theorem elementsReorderedHold (literal : expected.toList = values.map Deferred.value)
    (literal' : expected'.toList = values'.map Deferred.value) (asked : values'.Perm values)
    (timeout : Option Nat) (settings : CheckSettings) (predicates : Predicates)
    (perm : nodes.Perm w.session.nodes)
    (alike : World.ReadsAlike (w.reordered nodes) w s.kind s.target) :
    answerOf ((s.compare (.relates relation expected') timeout).holds settings predicates)
        (w.reordered nodes) =
      answerOf ((s.compare (.relates relation expected) timeout).holds settings predicates) w := by
  have seen : SameSight ((w.reordered nodes).compared (s.relates relation values'))
      (w.compared (s.relates relation values)) :=
    comparedReordered asked (World.extractionReordered perm alike)
  rw [relationHolds literal, relationHolds literal',
    answerOfResult (lenientAnswer (World.holdsNowSees _ _)),
    answerOfResult (lenientAnswer (World.holdsNowSees _ _)), seen.done]

end Verdicts

/-- Comparing is up to order, for every host and every relation: neither the order of the expected
values nor, while they are read in the same way, that of the elements changes a verdict. -/
theorem verdictUpToOrder {σ E : Type} [Host σ E] (settings : CheckSettings)
    (predicates : Predicates) (s : Subject) (relation : Relation) {expected expected' : Expected}
    {values values' : List String} (literal : expected.toList = values.map Deferred.value)
    (literal' : expected'.toList = values'.map Deferred.value) (asked : values'.Perm values)
    (timeout : Option Nat) :
    (∀ actual sought : List String,
      (Compare.equals actual sought = true ↔ sought.Perm actual) ∧
      (Compare.equals actual sought = true ↔ ∀ text, sought.count text = actual.count text)) ∧
    (∀ state : σ, ∃ verdict verdict' after,
      (s.compare (.relates relation expected) timeout).verify settings predicates state =
        resultIn verdict after ∧
      (s.compare (.relates relation expected') timeout).verify settings predicates state =
        resultIn verdict' after ∧
      SameVerdict verdict' verdict) ∧
    ((s.compare (.relates relation expected') timeout).holds settings predicates : Check σ Bool) =
      (s.compare (.relates relation expected) timeout).holds settings predicates ∧
    ∀ (w : World) (nodes : List Node), nodes.Perm w.session.nodes →
      (∀ time ≤ timeout.getD settings.timeout,
        World.ReadsAlike ((w.reordered nodes).pass time) (w.pass time) s.kind s.target) →
      (∃ elapsed ≤ timeout.getD settings.timeout, ∃ verdict verdict',
        (s.compare (.relates relation expected) timeout).verify settings predicates w =
          resultIn verdict (w.pass elapsed) ∧
        (s.compare (.relates relation expected') timeout).verify settings predicates
            (w.reordered nodes) =
          resultIn verdict' ((w.reordered nodes).pass elapsed) ∧
        SameVerdict verdict' verdict) ∧
      answerOf ((s.compare (.relates relation expected') timeout).holds settings predicates)
          (w.reordered nodes) =
        answerOf ((s.compare (.relates relation expected) timeout).holds settings predicates)
          w := by
  refine ⟨fun actual sought => ?_, expectedReordered literal literal' asked timeout _ _,
    expectedReorderedHolds literal literal' asked timeout _ _, fun w nodes perm alike => ⟨?_, ?_⟩⟩
  · have equal : Compare.equals actual sought = true ↔ sought.Perm actual :=
      (Compare.equalsIffPerm actual sought).trans List.perm_comm
    exact ⟨equal, equal.trans List.perm_iff_count⟩
  · exact elementsReordered literal literal' asked timeout settings predicates perm alike
  · exact elementsReorderedHold literal literal' asked timeout settings predicates perm
      (alike 0 (Nat.zero_le _))

def fieldAndParagraph : World :=
  { session := { Browser.Session.start [] with
      url := "http://a/", html := "<input><p>", nodes := [
        entry "input" "" [("class", "entry"), ("value", "a")], entry "p" "b" [("class", "entry")]] }
    now := 7 }
where
  entry (tag text : String) (attrs : Keyed String) : Node :=
    { tag, text, attrs, selected := false, hidden := false, parent := none, frame := none,
      appearAfter := none, removeAfter := none, onClick := [] }

def paragraphAndField : World := fieldAndParagraph.reordered fieldAndParagraph.session.nodes.reverse

def entries (kind : Option ValueKind) : Subject :=
  { target := .element (.value { strategy := .className, selector := "entry" }), kind,
    count := none }

def entriesEqual (kind : Option ValueKind) (values : List (Deferred String)) : Assertion :=
  (entries kind).compare (.relates .equals (.many values)) (some 30)

theorem declaredTypeUpToOrder :
    ["", "a"].Perm ["a", ""] ∧
    fieldAndParagraph.session.nodes.reverse.Perm fieldAndParagraph.session.nodes ∧
    (∀ time ≤ 30, World.ReadsAlike (paragraphAndField.pass time) (fieldAndParagraph.pass time)
      (some (.attr "value")) (entries (some (.attr "value"))).target) ∧
    ∃ elapsed ≤ 30, ∃ verdict verdict',
      (entriesEqual (some (.attr "value")) [.value "a", .value ""]).verify .default []
        fieldAndParagraph = resultIn verdict (fieldAndParagraph.pass elapsed) ∧
      (entriesEqual (some (.attr "value")) [.value "", .value "a"]).verify .default []
        paragraphAndField = resultIn verdict' (paragraphAndField.pass elapsed) ∧
      SameVerdict verdict' verdict := by
  have asked : ["", "a"].Perm ["a", ""] := .swap _ _ _
  have perm : fieldAndParagraph.session.nodes.reverse.Perm fieldAndParagraph.session.nodes :=
    List.reverse_perm _
  have alike : ∀ time ≤ 30, World.ReadsAlike (paragraphAndField.pass time)
      (fieldAndParagraph.pass time) (some (.attr "value"))
        (entries (some (.attr "value"))).target :=
    fun _ _ => World.readsAlikeDeclared _ _ _ _
  have literal : (Expected.many [.value "a", .value ""]).toList =
      ["a", ""].map Deferred.value := rfl
  have literal' : (Expected.many [.value "", .value "a"]).toList =
      ["", "a"].map Deferred.value := rfl
  have upToOrder := @verdictUpToOrder World _ _ .default [] (entries (some (.attr "value")))
    .equals _ _ _ _ literal literal' asked (some 30)
  exact ⟨asked, perm, alike, (upToOrder.2.2.2 _ _ perm alike).1⟩

theorem firstMatchDecides :
    fieldAndParagraph.session.nodes.reverse.Perm fieldAndParagraph.session.nodes ∧
    (entriesEqual none [.value "a", .value ""]).PassesOn .default [] fieldAndParagraph ∧
    ¬ (entriesEqual none [.value "a", .value ""]).PassesOn .default [] paragraphAndField := by
  have still : fieldAndParagraph.Still := by decide
  have still' : paragraphAndField.Still := by decide
  have read : (entries none).Reads fieldAndParagraph
      { values := ["a", ""], reading := .input, matched := 2 } := ⟨by decide, nofun⟩
  have read' : (entries none).Reads paragraphAndField
      { values := ["b", ""], reading := .innerText, matched := 2 } := ⟨by decide, nofun⟩
  have literal : (Expected.many [.value "a", .value ""]).toList =
      ["a", ""].map Deferred.value := rfl
  refine ⟨List.reverse_perm _, ?_, ?_⟩
  · exact (relationPasses still read .equals literal).mpr (.refl _)
  · intro passes
    have same := (relationPasses still' read' .equals literal).mp passes
    revert same
    show ¬ ["b", ""].Perm ["a", ""]
    decide

end PageCheck
