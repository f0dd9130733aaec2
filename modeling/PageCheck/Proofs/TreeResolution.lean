import PageCheck.Proofs.ScenarioForm

/-!
Resolving scenarios. The result has the same form and no references, its literals are those that were
there before, and only the entries of the keys that occur matter. A scenario that cannot be resolved
fails as the first of its blanks that cannot be filled.
-/
namespace PageCheck

theorem Leaf.concatenatedAgrees {m n : Mapping} {leaves : List Leaf}
    (same : ∀ key ∈ keys leaves, n.get? key = m.get? key) :
    concatenated n leaves = concatenated m leaves := by
  induction leaves with
  | nil => rfl
  | cons leaf rest ih =>
    cases leaf with
    | literal text =>
      rw [← List.singleton_append, concatenatedAppend, concatenatedAppend, concatenatedLiteral,
        concatenatedLiteral, ih same]
    | entry key =>
      obtain ⟨here, later⟩ := List.forall_mem_cons.mp same
      rw [concatenatedEntry, concatenatedEntry, Mapping.entry, Mapping.entry, here, ih later]

theorem Placeholder.resolveAgrees {m n : Mapping} {p : Placeholder}
    (same : ∀ key ∈ p.keys, n.get? key = m.get? key) : p.resolve n = p.resolve m := by
  by_cases alone : p.append = []
  · rw [resolveAlone alone, resolveAlone alone, Mapping.entry, Mapping.entry,
      same p.key (.head _)]
  · rw [resolveAppended alone, resolveAppended alone, Leaf.concatenatedAgrees same]

namespace Deferred

variable {α : Type} [Slot α] {m n : Mapping}

theorem resolveAgrees {d : Deferred α}
    (same : ∀ key ∈ d.references.flatMap Placeholder.keys, n.get? key = m.get? key) :
    d.resolve n = d.resolve m := by
  cases d with
  | value literal => rfl
  | reference p =>
    rw [references, List.flatMap_singleton] at same
    rw [resolve, resolve, Placeholder.resolveAgrees same]

theorem literalKept {d found : Deferred α} (resolved : d.resolve m = .ok found)
    (literal : d.references = []) : found = d := by
  cases d with
  | value literal =>
    cases resolved
    rfl
  | reference p => cases literal

theorem referenceFails {p : Placeholder} {failure : Failure}
    (failed : (reference p : Deferred α).resolve m = .error failure) :
    (∃ key ∈ p.keys, m.has key = false ∧ failure = .missingPlaceholder key) ∨
      ∃ found, p.resolve m = .ok found ∧ Slot.ofEntry (α := α) p.key found = .error failure := by
  rw [resolve] at failed
  cases resolved : p.resolve m with
  | error e =>
    obtain ⟨before, key, after, split, -, missing, rfl⟩ :=
      Leaf.concatenatedError.mp (Placeholder.resolveError.mp resolved)
    rw [resolved] at failed
    cases failed
    have occurs : key ∈ p.keys := by
      rw [Placeholder.keys, split]
      exact List.mem_append_right before (.head after)
    exact .inl ⟨key, occurs, missing, rfl⟩
  | ok found =>
    rw [resolved] at failed
    replace failed : (do return value (← Slot.ofEntry (α := α) p.key found)) = .error failure :=
      failed
    refine .inr ⟨found, rfl, ?_⟩
    cases taken : Slot.ofEntry (α := α) p.key found with
    | ok literal =>
      rw [taken] at failed
      cases failed
    | error e =>
      rw [taken] at failed
      cases failed
      rfl

end Deferred

namespace Blank

variable {m n : Mapping} {b filled : Blank} {failure : Failure}

theorem resolveAgrees (same : ∀ key ∈ b.keys, n.get? key = m.get? key) :
    b.resolve n = b.resolve m := by
  cases b with
  | text field => rw [resolve, resolve, Deferred.resolveAgrees same]
  | locator field => rw [resolve, resolve, Deferred.resolveAgrees same]
  | flag field => rw [resolve, resolve, Deferred.resolveAgrees same]

theorem clears (resolved : b.resolve m = .ok filled) : filled.references = [] := by
  cases b with
  | text field =>
    obtain ⟨found, atField, rfl⟩ := mapOk.mp resolved
    exact Deferred.clears m field found atField
  | locator field =>
    obtain ⟨found, atField, rfl⟩ := mapOk.mp resolved
    exact Deferred.clears m field found atField
  | flag field =>
    obtain ⟨found, atField, rfl⟩ := mapOk.mp resolved
    exact Deferred.clears m field found atField

theorem literalKept (resolved : b.resolve m = .ok filled) (literal : b.references = []) :
    filled = b := by
  cases b with
  | text field =>
    obtain ⟨found, atField, rfl⟩ := mapOk.mp resolved
    rw [Deferred.literalKept atField literal]
  | locator field =>
    obtain ⟨found, atField, rfl⟩ := mapOk.mp resolved
    rw [Deferred.literalKept atField literal]
  | flag field =>
    obtain ⟨found, atField, rfl⟩ := mapOk.mp resolved
    rw [Deferred.literalKept atField literal]

theorem settles (resolved : b.resolve m = .ok filled) : filled.resolve n = .ok filled := by
  cases b with
  | text field =>
    obtain ⟨_, rfl, again⟩ := Deferred.settles.one text resolved
    exact again n
  | locator field =>
    obtain ⟨_, rfl, again⟩ := Deferred.settles.one locator resolved
    exact again n
  | flag field =>
    obtain ⟨_, rfl, again⟩ := Deferred.settles.one flag resolved
    exact again n

theorem amiss (failed : b.resolve m = .error failure) : Amiss m b failure := by
  cases b with
  | text field =>
    cases field with
    | value literal => cases failed
    | reference p =>
      rcases Deferred.referenceFails (mapFails.mp failed) with
        ⟨key, occurs, missing, rfl⟩ | ⟨found, -, refused⟩
      · exact .undefined (List.mem_flatMap_of_mem (.head _) occurs) missing
      · cases refused
  | locator field =>
    cases field with
    | value literal => cases failed
    | reference p =>
      rcases Deferred.referenceFails (mapFails.mp failed) with
        ⟨key, occurs, missing, rfl⟩ | ⟨found, resolved, refused⟩
      · exact .undefined (List.mem_flatMap_of_mem (.head _) occurs) missing
      · cases found with
        | locator l => cases refused
        | _ =>
          cases refused
          exact .noLocator resolved nofun
  | flag field =>
    cases field with
    | value literal => cases failed
    | reference p =>
      rcases Deferred.referenceFails (mapFails.mp failed) with
        ⟨key, occurs, missing, rfl⟩ | ⟨found, resolved, refused⟩
      · exact .undefined (List.mem_flatMap_of_mem (.head _) occurs) missing
      · cases found with
        | bool value => cases refused
        | _ =>
          cases refused
          exact .noFlag resolved nofun

theorem Amiss.isConfiguration (amiss : Amiss m b failure) : failure.isConfiguration = true := by
  cases amiss with
  | undefined _ _ => rfl
  | noLocator _ _ => rfl
  | noFlag _ _ => rfl

end Blank

namespace Scenario

variable {m n : Mapping} {s t : Scenario}

def keys (s : Scenario) : List String := s.blanks.flatMap Blank.keys

structure Resolved (m : Mapping) (s t : Scenario) : Prop where
  form : t.form = s.form
  filled : List.Forall₂ (fun blank filled => blank.resolve m = .ok filled) s.blanks t.blanks
  literals : List.Forall₂ (fun blank filled => blank.references = [] → filled = blank)
    s.blanks t.blanks
  cleared : ∀ blank ∈ t.blanks, blank.references = []
  settled : ∀ n, Scenario.resolve n t = .ok t

theorem filledEach {blanks filling : List Blank}
    (filled : List.Forall₂ (fun blank filled => blank.resolve m = .ok filled) blanks filling) :
    ∀ blank ∈ filling, ∃ before, Blank.resolve m before = .ok blank := by
  induction filled with
  | nil => nofun
  | cons here _ ih => exact List.forall_mem_cons.mpr ⟨⟨_, here⟩, ih⟩

theorem resolvedIff : Scenario.resolve m s = .ok t ↔ Resolved m s t := by
  refine ⟨fun resolved => ?_, fun resolved => traverses.resolvesIff.mpr
    ⟨resolved.form, resolved.filled⟩⟩
  obtain ⟨sameForm, filled⟩ := traverses.resolvesIff.mp resolved
  have each := filledEach filled
  refine ⟨sameForm, filled, ?_, ?_, ?_⟩
  · exact filled.imp fun _ _ => Blank.literalKept
  · intro blank member
    obtain ⟨_, atBlank⟩ := each blank member
    exact Blank.clears atBlank
  · intro n
    refine traverses.resolvesIff.mpr ⟨rfl, List.forall₂_same.mpr fun blank member => ?_⟩
    obtain ⟨_, atBlank⟩ := each blank member
    exact Blank.settles atBlank

theorem failsIff {failure : Failure} : Scenario.resolve m s = .error failure ↔
    ∃ before blank after, s.blanks = before ++ blank :: after ∧
      (∀ earlier ∈ before, ∃ filled, Blank.resolve m earlier = .ok filled) ∧
      blank.resolve m = .error failure :=
  traverses.failsIff

theorem resolveAgrees (same : ∀ key ∈ s.keys, n.get? key = m.get? key) :
    Scenario.resolve n s = Scenario.resolve m s :=
  traverses.agrees fun _ member => Blank.resolveAgrees fun key occurs =>
    same key (List.mem_flatMap_of_mem member occurs)

/-- Resolving fills every blank of a scenario and changes nothing else, by the entries of the keys
that occur, and fails as the first blank that cannot be filled. -/
theorem fillsBlanks (m : Mapping) (s : Scenario) :
    (∀ t : Scenario, t.form = s.form → t.blanks = s.blanks → t = s) ∧
    (∀ t, Scenario.resolve m s = .ok t ↔ Resolved m s t) ∧
    (∀ n, (∀ key ∈ s.keys, n.get? key = m.get? key) →
      Scenario.resolve n s = Scenario.resolve m s) ∧
    (∀ failure, Scenario.resolve m s = .error failure →
      failure.isConfiguration = true ∧
      ∃ before blank after, s.blanks = before ++ blank :: after ∧
        (∀ earlier ∈ before, ∃ filled, Blank.resolve m earlier = .ok filled) ∧
        blank.resolve m = .error failure ∧ blank.Amiss m failure) := by
  refine ⟨fun t sameForm sameBlanks => traverses.unique sameForm sameBlanks,
    fun t => resolvedIff, fun n same => resolveAgrees same, fun failure failed => ?_⟩
  obtain ⟨before, blank, after, split, earlier, fails⟩ := failsIff.mp failed
  have amiss := Blank.amiss fails
  exact ⟨amiss.isConfiguration, before, blank, after, split, earlier, fails, amiss⟩

end Scenario

def signingIn (url : Deferred String) (field : Deferred Locator) (name shown : Deferred String) :
    Scenario :=
  [{ body := { StepBody.empty with
        url := some url
        actions := [⟨.clear field .text, some 5⟩, ⟨.sendKeys field name, none⟩] }
     nested := some [.checking [⟨.compare ⟨.element field, .relates .equals (.one shown), none,
        some 1⟩, none⟩]] }]

def unresolvedSigningIn : Scenario :=
  signingIn (.reference ⟨"base", [.literal "/in"]⟩) (.reference ⟨"field", []⟩) (.value "Ann")
    (.reference ⟨"name", []⟩)

def resolvedSigningIn : Scenario :=
  signingIn (.value "http://a/in") (.value ⟨.id, "who"⟩) (.value "Ann") (.value "Ann")

def signingInEntries : Mapping :=
  [("base", .text "http://a"), ("field", .locator ⟨.id, "who"⟩), ("name", .text "Ann")]

theorem fillsBlanksOfSigningIn :
    Scenario.resolve signingInEntries unresolvedSigningIn = .ok resolvedSigningIn ∧
    Scenario.resolve [] resolvedSigningIn = .ok resolvedSigningIn ∧
    Scenario.resolve (("other", .bool true) :: signingInEntries) unresolvedSigningIn =
      .ok resolvedSigningIn ∧
    (∃ blank ∈ unresolvedSigningIn.blanks, blank.resolve [("base", .text "http://a")] =
      .error (.missingPlaceholder "field")) := by
  have resolved :
      Scenario.resolve signingInEntries unresolvedSigningIn = .ok resolvedSigningIn := by
    rfl
  have failed : Scenario.resolve [("base", .text "http://a")] unresolvedSigningIn =
      .error (.missingPlaceholder "field") := by
    rfl
  obtain ⟨-, told, agrees, -⟩ := Scenario.fillsBlanks signingInEntries unresolvedSigningIn
  obtain ⟨-, -, -, fails⟩ :=
    Scenario.fillsBlanks [("base", .text "http://a")] unresolvedSigningIn
  obtain ⟨-, before, blank, after, split, -, atBlank, -⟩ := fails _ failed
  have same : ∀ key ∈ unresolvedSigningIn.keys,
      Keyed.get? (("other", .bool true) :: signingInEntries) key =
        signingInEntries.get? key := by
    decide
  have member : blank ∈ unresolvedSigningIn.blanks :=
    split ▸ List.mem_append_right before List.mem_cons_self
  exact ⟨resolved, ((told _).mp resolved).settled [], (agrees _ same).trans resolved,
    blank, member, atBlank⟩

end PageCheck
