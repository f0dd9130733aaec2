import PageCheck.Step

/-!
What has been resolved holds literals only, so resolving it again changes nothing, whatever the
entries are.
-/
namespace PageCheck

section Results

variable {ε α β γ : Type}

theorem bindOk {result : Except ε α} {next : α → Except ε β} {value : β} :
    (result >>= next) = .ok value ↔ ∃ found, result = .ok found ∧ next found = .ok value := by
  cases result with
  | ok found => exact ⟨fun same => ⟨found, rfl, same⟩, fun ⟨_, rfl, same⟩ => same⟩
  | error e => exact ⟨(nomatch ·), fun ⟨_, same, _⟩ => nomatch same⟩

theorem mapOk {result : Except ε α} {build : α → β} {value : β} :
    (do return build (← result)) = .ok value ↔
      ∃ found, result = .ok found ∧ build found = value := by
  rw [bindOk]
  exact exists_congr fun _ => and_congr_right fun _ => ⟨Except.ok.inj, congrArg Except.ok⟩

theorem mapsOk {result : Except ε α} {build : α → β} {value : β}
    (mapped : result.map build = .ok value) :
    ∃ found, result = .ok found ∧ build found = value := by
  cases result with
  | ok found => exact ⟨found, rfl, Except.ok.inj mapped⟩
  | error e => cases mapped

theorem mapsIff {result : Except ε α} {build : α → β} {value : β} :
    result.map build = .ok value ↔ ∃ found, result = .ok found ∧ build found = value :=
  ⟨mapsOk, fun ⟨_, ran, same⟩ => ran ▸ congrArg Except.ok same⟩

theorem mapErrorOk {result : Except ε α} {explain : ε → γ} {value : α}
    (mapped : result.mapError explain = .ok value) : result = .ok value := by
  cases result with
  | ok found => exact congrArg Except.ok (Except.ok.inj mapped)
  | error e => cases mapped

theorem mapErrorIff {result : Except ε α} {explain : ε → γ} {value : α} :
    result.mapError explain = .ok value ↔ result = .ok value :=
  ⟨mapErrorOk, fun ran => ran ▸ rfl⟩

end Results

def Settles {α : Type} (resolve : Mapping → α → Except Failure α) : Prop :=
  ∀ m x y, resolve m x = .ok y → ∀ n, resolve n y = .ok y

namespace Settles

variable {α β γ : Type} {resolve : Mapping → α → Except Failure α}
  {resolve' : Mapping → β → Except Failure β} {m : Mapping}

theorem one (h : Settles resolve) (build : α → γ) {x : α} {z : γ}
    (resolved : (do return build (← resolve m x)) = .ok z) :
    ∃ part, z = build part ∧
      ∀ n, (do return build (← resolve n part) : Except Failure γ) = .ok (build part) := by
  obtain ⟨part, found, rfl⟩ := mapOk.mp resolved
  exact ⟨part, rfl, fun n => mapOk.mpr ⟨part, h m x part found n, rfl⟩⟩

theorem two (h : Settles resolve) (h' : Settles resolve') (build : α → β → γ) {x : α} {y : β}
    {z : γ}
    (resolved : (do
      let first ← resolve m x
      return build first (← resolve' m y)) = .ok z) :
    ∃ first second, z = build first second ∧
      ∀ n, (do
        let first ← resolve n first
        return build first (← resolve' n second) : Except Failure γ) =
          .ok (build first second) := by
  obtain ⟨first, found, rest⟩ := bindOk.mp resolved
  obtain ⟨second, rfl, again⟩ := h'.one (build first) rest
  exact ⟨first, second, rfl, fun n => bindOk.mpr ⟨first, h m x first found n, again n⟩⟩

theorem option (h : Settles resolve) : Settles fun m => resolveOption (resolve m) := by
  intro m x y resolved n
  cases x with
  | none => cases resolved; rfl
  | some part =>
    obtain ⟨_, rfl, again⟩ := h.one some resolved
    exact again n

theorem items (h : Settles resolve) : Settles fun m => resolveItems (resolve m) := by
  intro m x y resolved n
  induction x generalizing y with
  | nil => cases resolved; rfl
  | cons item rest ih =>
    obtain ⟨first, found, others⟩ := bindOk.mp resolved
    obtain ⟨last, done, rfl⟩ := mapOk.mp others
    exact bindOk.mpr ⟨first, h m item first found n, mapOk.mpr ⟨last, ih last done, rfl⟩⟩

end Settles

theorem Deferred.settles {α : Type} [Slot α] : Settles (Deferred.resolve (α := α)) := by
  intro m x y resolved n
  cases x with
  | value literal => cases resolved; rfl
  | reference placeholder =>
    obtain ⟨_, _, found⟩ := bindOk.mp resolved
    obtain ⟨_, _, rfl⟩ := mapOk.mp found
    rfl

theorem Deferred.listSettles {α : Type} [Slot α] :
    Settles fun m => resolveItems (Deferred.resolve (α := α) m) :=
  Settles.items Deferred.settles

theorem Target.settles : Settles Target.resolve := by
  intro m x y resolved n
  cases x with
  | element locator =>
    obtain ⟨_, rfl, again⟩ := Settles.one Deferred.settles Target.element resolved
    exact again n
  | html => cases resolved; rfl
  | url => cases resolved; rfl

theorem Expected.settles : Settles Expected.resolve := by
  intro m x y resolved n
  cases x with
  | one value =>
    obtain ⟨_, rfl, again⟩ := Settles.one Deferred.settles Expected.one resolved
    exact again n
  | many values =>
    obtain ⟨_, rfl, again⟩ := Settles.one Deferred.listSettles Expected.many resolved
    exact again n

theorem Criterion.settles : Settles Criterion.resolve := by
  intro m x y resolved n
  cases x with
  | relates relation expected =>
    obtain ⟨_, rfl, again⟩ := Settles.one Expected.settles (Criterion.relates relation) resolved
    exact again n
  | likes expected =>
    obtain ⟨_, rfl, again⟩ := Settles.one Deferred.settles Criterion.likes resolved
    exact again n
  | notLikes expected =>
    obtain ⟨_, rfl, again⟩ := Settles.one Deferred.settles Criterion.notLikes resolved
    exact again n
  | satisfies predicate => cases resolved; rfl

theorem Presence.settles : Settles Presence.resolve := by
  intro m x y resolved n
  obtain ⟨_, rfl, again⟩ := Settles.one Deferred.settles (Presence.mk · x.count) resolved
  exact again n

theorem Comparison.settles : Settles Comparison.resolve := by
  intro m x y resolved n
  obtain ⟨_, _, rfl, again⟩ := Settles.two Target.settles Criterion.settles
    (Comparison.mk · · x.kind x.count) resolved
  exact again n

theorem Demand.settles : Settles Demand.resolve := by
  intro m x y resolved n
  cases x with
  | present presence =>
    obtain ⟨_, rfl, again⟩ := Settles.one Presence.settles Demand.present resolved
    exact again n
  | absent presence =>
    obtain ⟨_, rfl, again⟩ := Settles.one Presence.settles Demand.absent resolved
    exact again n
  | compare comparison =>
    obtain ⟨_, rfl, again⟩ := Settles.one Comparison.settles Demand.compare resolved
    exact again n

theorem Assertion.settles : Settles Assertion.resolve := by
  intro m x y resolved n
  obtain ⟨_, rfl, again⟩ := Settles.one Demand.settles (Assertion.mk · x.timeout) resolved
  exact again n

theorem Condition.settles : Settles Condition.resolve := by
  intro m x y resolved n
  cases x with
  | flag value =>
    obtain ⟨_, rfl, again⟩ := Settles.one Deferred.settles Condition.flag resolved
    exact again n
  | assertion a =>
    obtain ⟨_, rfl, again⟩ := Settles.one Assertion.settles Condition.assertion resolved
    exact again n

theorem Guard.settles : Settles Guard.resolve := Settles.items (Settles.items Condition.settles)

theorem Frame.settles : Settles Frame.resolve := by
  intro m x y resolved n
  cases x with
  | top => cases resolved; rfl
  | within locator =>
    obtain ⟨_, rfl, again⟩ := Settles.one Deferred.settles Frame.within resolved
    exact again n

theorem Deed.settles : Settles Deed.resolve := by
  intro m x y resolved n
  cases x with
  | click target =>
    obtain ⟨_, rfl, again⟩ := Settles.one Deferred.settles Deed.click resolved
    exact again n
  | sendKeys target value =>
    obtain ⟨_, _, rfl, again⟩ :=
      Settles.two Deferred.settles Deferred.settles Deed.sendKeys resolved
    exact again n
  | clear target mode =>
    obtain ⟨_, rfl, again⟩ := Settles.one Deferred.settles (Deed.clear · mode) resolved
    exact again n
  | check target values =>
    obtain ⟨_, _, rfl, again⟩ :=
      Settles.two Deferred.settles Deferred.listSettles Deed.check resolved
    exact again n
  | select target values =>
    obtain ⟨_, _, rfl, again⟩ :=
      Settles.two Deferred.settles Deferred.listSettles Deed.select resolved
    exact again n
  | unselect target values =>
    obtain ⟨_, _, rfl, again⟩ :=
      Settles.two Deferred.settles Deferred.listSettles Deed.unselect resolved
    exact again n
  | alert answer => cases resolved; rfl
  | switchTo frame =>
    obtain ⟨_, rfl, again⟩ := Settles.one Frame.settles Deed.switchTo resolved
    exact again n

theorem Action.settles : Settles Action.resolve := by
  intro m x y resolved n
  obtain ⟨_, rfl, again⟩ := Settles.one Deed.settles (Action.mk · x.timeout) resolved
  exact again n

theorem StepBody.settles : Settles StepBody.resolve := by
  intro m x y resolved n
  obtain ⟨url, atUrl, resolved⟩ := bindOk.mp resolved
  obtain ⟨link, atLink, resolved⟩ := bindOk.mp resolved
  obtain ⟨execif, atGuard, resolved⟩ := bindOk.mp resolved
  obtain ⟨_, _, rfl, again⟩ :=
    Settles.two (Settles.items Action.settles) (Settles.items Assertion.settles)
      (StepBody.mk url link execif) resolved
  exact bindOk.mpr ⟨url, Settles.option Deferred.settles _ _ _ atUrl n,
    bindOk.mpr ⟨link, Settles.option Deferred.settles _ _ _ atLink n,
      bindOk.mpr ⟨execif, Settles.option Guard.settles _ _ _ atGuard n, again n⟩⟩⟩

end PageCheck
