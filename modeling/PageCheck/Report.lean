import PageCheck.Step
import PageCheck.Json.Printer
import PageCheck.Host

/-!
Failures with the page they happened on. A failure is wrapped once, for the innermost step; in
debug mode it stays bare.
-/
namespace PageCheck.Report

variable {σ E : Type} [Host σ E]

def textOr (warning : String → Event) (operation : EStateM HostError σ String) :
    Check σ String := do
  match ← Check.attempt operation with
  | .ok text => return text
  | .error e =>
    Check.emit (warning e.message)
    return ""

def wrap (debug : Bool) (body : StepBody) (failure : Failure) : Check σ Failure := do
  if debug || failure.isReported then return failure
  let url ← textOr Event.noUrl Host.currentUrl
  let html ← textOr Event.noHtml Host.outerHtml
  return .reported { url, step := body.toJson.compact, html } failure

def within {α : Type} (debug : Bool) (body : StepBody) (part : Check σ α) : Check σ α :=
  tryCatch part fun failure => do throw (← wrap debug body failure)

end PageCheck.Report
