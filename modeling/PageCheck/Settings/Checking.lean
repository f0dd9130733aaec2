import PageCheck.Directive
import PageCheck.Json.Struct
import PageCheck.Text.Blank

/-!
Settings of the checker: default timeout, polling interval, bare failures, and the base of relative
addresses. Settings that are not written have default values.
-/
namespace PageCheck

structure CheckSettings where
  /-- Milliseconds to wait where a scenario says nothing. -/
  timeout : Nat
  /-- Milliseconds between two looks at the page. -/
  interval : Nat
  debug : Bool
  base : Option String
  deriving DecidableEq, Repr, Inhabited

namespace CheckSettings

def default : CheckSettings := { timeout := 4000, interval := 100, debug := false, base := none }

def schemeMark : List Char := [':', '/', '/']

def resolveUrl (s : CheckSettings) (url : String) : String :=
  match s.base with
  | some base =>
    if Text.occurs schemeMark url.toList then url
    else String.ofList (Text.dropEndWhile (· = '/') base.toList ++
      '/' :: url.toList.dropWhile (· = '/'))
  | none => url

def fieldNames : List String := ["timeout_ms", "poll_interval_ms", "debug", "base_url"]

end CheckSettings

def settingOr {ν α : Type} (fields : Keyed ν) (name : String) (default : α)
    (read : ν → Option α) : Option α :=
  match fields.get? name with
  | none => some default
  | some written => read written

def Json.bool? : Json → Option Bool
  | .bool value => some value
  | _ => none

def Json.text? : Json → Option String
  | .text value => some value
  | _ => none

def Json.textOrNull? : Json → Option (Option String)
  | .null => some none
  | .text value => some (some value)
  | _ => none

namespace CheckSettings

def ofJson (written : Json) : Option CheckSettings := do
  let fields ← Json.openFields fieldNames written
  let milliseconds := fun value => (Shape.milliseconds value).toOption
  let timeout ← settingOr fields "timeout_ms" default.timeout milliseconds
  let interval ← settingOr fields "poll_interval_ms" default.interval milliseconds
  let debug ← settingOr fields "debug" default.debug Json.bool?
  let base ← settingOr fields "base_url" default.base Json.textOrNull?
  return { timeout, interval, debug, base }

def toJson (s : CheckSettings) : Json :=
  .record [("timeout_ms", Json.nat s.timeout), ("poll_interval_ms", Json.nat s.interval),
    ("debug", .bool s.debug), ("base_url", (s.base.map Json.text).getD .null)]

end CheckSettings

end PageCheck
