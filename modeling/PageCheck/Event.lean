import PageCheck.Host
import PageCheck.Text.Digit

/-!
Log events as text: a level, a message and named fields.
-/
namespace PageCheck

def Phase.name : Phase → String
  | .pending => "Pending"
  | .guardCheck => "GuardCheck"
  | .navigate => "Navigate"
  | .actions => "Actions"
  | .checks => "Checks"
  | .nested => "Nested"
  | .done => "Done"
  | .aborted => "Aborted"

namespace Event

def level : Event → String
  | guardFalse .. | running .. => "INFO"
  | pollTimedOut _ => "TRACE"
  | noUrl _ | noHtml _ => "WARN"
  | _ => "DEBUG"

def message : Event → String
  | transition _ => "step transition"
  | finished .. => "scenario finished"
  | guardFalse .. => "execif is false, skipping the rest of the sequence"
  | entering _ => "entering nested scenario"
  | navigating _ => "navigating"
  | following _ => "following link"
  | performing _ => "performing action"
  | verifying _ => "verifying assertion"
  | pollTimedOut _ => "polling timed out"
  | valueTimedOut _ => "value assertion timed out"
  | guardFailed .. => "guard check failed, treating as false"
  | groupFalse _ => "execif group is false"
  | noUrl _ => "could not read current url for failure report"
  | noHtml _ => "could not capture page html for failure report"
  | parsed .. => "scenario parsed"
  | running .. => "running scenario"

def number (n : Nat) : String := String.ofList (Text.decimal n)

def fields : Event → Keyed String
  | transition phase => [("phase", phase.name)]
  | finished steps skipped navigations =>
    [("steps", number steps), ("skipped", number skipped), ("navigations", number navigations)]
  | guardFalse index skipped => [("index", number index), ("skipped", number skipped)]
  | entering steps => [("steps", number steps)]
  | navigating url => [("url", url)]
  | following locator => [("locator", locator.display)]
  | performing directive => [("directive", directive)]
  | verifying directive => [("directive", directive)]
  | pollTimedOut attempts => [("attempts", number attempts)]
  | valueTimedOut directive => [("directive", directive)]
  | guardFailed directive error => [("directive", directive), ("error", error)]
  | groupFalse group => [("group", number group)]
  | noUrl error => [("error", error)]
  | noHtml error => [("error", error)]
  | parsed file steps | running file steps => [("file", file), ("steps", number steps)]

end Event

end PageCheck
