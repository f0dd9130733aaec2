import PageCheck.Action.Reader
import PageCheck.Proofs.WrittenDirective

/-!
Actions are read back from what is written for them. What is read always has a timeout that can be
written again, and so has what is resolved.
-/
namespace PageCheck

def fitsTimeout (timeout : Option Nat) : Bool := timeout.all fun time => time ≤ Json.maxNatural

theorem fitsTimeoutIff {timeout : Option Nat} :
    fitsTimeout timeout = true ↔ ∀ time ∈ timeout, time ≤ Json.maxNatural := by
  cases timeout <;> simp [fitsTimeout]

namespace Deed

variable {d : Directive} {timeout : Option Json}

theorem rereadsGroup {name : String} {target : Deferred Locator} {values : List (Deferred String)}
    (deed : Deferred Locator → List (Deferred String) → Deed)
    (h : d.Writes name target.toJson
      ([("values", .list (values.map Deferred.toJson))] ++ Json.optional "timeout" timeout)) :
    readGroup deed d = .ok (deed target values) := by
  have expected : Expected.ofDirective d = .ok (.many values) := by
    refine h.expectsMany ?_ rfl
    simp [Keyed.getCons]
  have finished : d.finish ["timeout", "value", "values"] = .ok () :=
    h.finishesInTime (by decide) (by simp [Keyed.names])
  unfold readGroup
  rw [h.reads (Shape.deferredRereads target), expected, finished]
  rfl

theorem rereads (deed : Deed)
    (h : d.Writes deed.directive deed.written.1
      (deed.written.2 ++ Json.optional "timeout" timeout)) :
    ∃ read, d.choose .action Deed.readers = .ok read ∧ read d = .ok deed := by
  have chosen {read : Directive → Except Fault Deed}
      (found : Deed.readers.get? deed.directive = some read) :
      d.choose .action Deed.readers = .ok read := by
    unfold Directive.choose
    rw [h.name, found]
  cases deed with
  | click target =>
    have finished : d.finish ["timeout"] = .ok () :=
      h.finishesInTime (by decide) (by simp [written, Keyed.names])
    refine ⟨readClick, chosen rfl, ?_⟩
    unfold readClick
    rw [h.reads (Shape.deferredRereads target), finished]
    rfl
  | sendKeys target value =>
    have typed : d.modifier "value" Shape.deferred = .ok value :=
      h.needed (by simp [written, Keyed.getCons]) (Shape.deferredRereads value)
    have finished : d.finish ["timeout", "value"] = .ok () :=
      h.finishesInTime (by decide) (by simp [written, Keyed.names])
    refine ⟨readSendKeys, chosen rfl, ?_⟩
    unfold readSendKeys
    rw [h.reads (Shape.deferredRereads target), typed, finished]
    rfl
  | clear target mode =>
    refine ⟨readClear, chosen rfl, ?_⟩
    unfold readClear
    cases mode with
    | text =>
      have kind : d.modifier? "type" Shape.string = .ok none :=
        h.missing _ (by simp [written])
      have finished : d.finish ["timeout", "type"] = .ok () :=
        h.finishesInTime (by decide) (by simp [written, Keyed.names])
      rw [kind, h.reads (Shape.deferredRereads target), finished]
      rfl
    | checkbox =>
      have kind : d.modifier? "type" Shape.string = .ok (some "checkbox") :=
        h.given (rfl : Keyed.get? _ "type" = some (.text "checkbox")) rfl
      have finished : d.finish ["timeout", "type"] = .ok () :=
        h.finishesInTime (by decide) (by simp [written, Keyed.names])
      rw [kind, h.reads (Shape.deferredRereads target), finished]
      rfl
  | check target values => exact ⟨_, chosen rfl, rereadsGroup .check h⟩
  | select target values => exact ⟨_, chosen rfl, rereadsGroup .select h⟩
  | unselect target values => exact ⟨_, chosen rfl, rereadsGroup .unselect h⟩
  | alert answer =>
    have answered : d.value Answer.read = .ok answer := h.reads (by cases answer <;> rfl)
    have finished : d.finish ["timeout"] = .ok () :=
      h.finishesInTime (by decide) (by simp [written, Keyed.names])
    refine ⟨readAlert, chosen rfl, ?_⟩
    unfold readAlert
    rw [answered, finished]
    rfl
  | switchTo frame =>
    have finished : d.finish ["timeout"] = .ok () :=
      h.finishesInTime (by decide) (by cases frame <;> simp [written, Keyed.names])
    refine ⟨readSwitchTo, chosen rfl, ?_⟩
    unfold readSwitchTo
    rw [finished]
    cases frame with
    | top =>
      rw [h.body]
      rfl
    | within locator =>
      obtain ⟨fields, isRecord⟩ := locator.locatorRecord
      have body : d.body = .record fields := h.body.trans isRecord
      rw [h.reads (Shape.deferredRereads locator), body]
      rfl

theorem directiveKnown (deed : Deed) : deed.directive ∈ Keyed.names readers := by
  cases deed <;> simp [directive, readers, Keyed.names]

theorem modifierNames (deed : Deed) :
    (Keyed.names deed.written.2).Sublist ["type", "value", "values"] := by
  cases deed with
  | clear target mode => cases mode <;> simp [written, Keyed.names]
  | switchTo frame => cases frame <;> exact List.nil_sublist _
  | _ => simp [written, Keyed.names]

end Deed

namespace Directive

theorem timeoutFits {d : Directive} {timeout : Option Nat} (read : d.timeout? = .ok timeout) :
    fitsTimeout timeout = true := by
  rw [fitsTimeoutIff]
  rintro time rfl
  obtain ⟨written, found⟩ := modifierRead read
  exact Shape.unsignedFits found

end Directive

namespace Action

def written (a : Action) : Fields :=
  (a.directive, a.deed.written.1) ::
    (a.deed.written.2 ++ Json.optional "timeout" (a.timeout.map Json.nat))

theorem noModifier : ∀ name ∈ Keyed.names Deed.readers,
    Directive.isModifier modifierKeys name = false := by
  decide +kernel

theorem rereads (a : Action) (fits : fitsTimeout a.timeout = true) :
    ofFields (Keyed.sorted (Json.canonicalFields a.written)) = .ok a := by
  obtain ⟨d, split, h, timeout⟩ := Directive.splitTimed .action a.deed.written.1
    (noModifier a.directive a.deed.directiveKnown) a.deed.modifierNames (by decide) (by decide)
    (fitsTimeoutIff.mp fits)
  obtain ⟨read, chosen, deed⟩ := a.deed.rereads h
  exact bindOk.mpr ⟨d, split, bindOk.mpr ⟨read, chosen, bindOk.mpr ⟨a.timeout, timeout,
    bindOk.mpr ⟨a.deed, deed, rfl⟩⟩⟩⟩

theorem readFits {fields : Fields} {a : Action} (read : ofFields fields = .ok a) :
    fitsTimeout a.timeout = true := by
  obtain ⟨d, _, read⟩ := bindOk.mp read
  obtain ⟨_, _, read⟩ := bindOk.mp read
  obtain ⟨timeout, timed, read⟩ := bindOk.mp read
  obtain ⟨deed, _, rfl⟩ := mapOk.mp read
  exact Directive.timeoutFits timed

theorem resolvedFits {m : Mapping} {a b : Action} (resolved : a.resolve m = .ok b)
    (fits : fitsTimeout a.timeout = true) : fitsTimeout b.timeout = true := by
  obtain ⟨deed, _, rfl⟩ := mapOk.mp resolved
  exact fits

end Action

end PageCheck
