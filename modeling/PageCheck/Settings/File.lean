import PageCheck.Settings.WebDriver
import PageCheck.Toml.Reader

/-!
The settings file: one table for the browser session, one for the checker. Either of them may also
be written as the list of its values in their fixed order. Unknown tables and keys are ignored; a
known key of the wrong kind makes the whole file unusable.
-/
namespace PageCheck

namespace Toml.Value

def text? : Value → Option String
  | .text value => some value
  | _ => none

def bool? : Value → Option Bool
  | .bool value => some value
  | _ => none

def natural? : Value → Option Nat
  | .integer n => if 0 ≤ n then some n.toNat else none
  | _ => none

def isBare : Value → Bool
  | .list [] | .table _ [] => true
  | _ => false

def fields? (names : List String) : Value → Option Entries
  | .table _ entries => some entries
  | .list items => some (names.zip items)
  | .tables items => some (names.zip (items.map fun entries => .table .declared entries))
  | _ => none

end Toml.Value

open Toml (Value)

def BrowserKind.ofToml : Value → Option BrowserKind
  | .text key => ofKey? key
  | .table _ [(key, value)] => if value.isBare then ofKey? key else none
  | _ => none

def SessionSettings.ofToml (written : Value) : Option SessionSettings := do
  let fields ← written.fields? fieldNames
  let url ← settingOr fields "url" default.url Value.text?
  let browser ← settingOr fields "browser" default.browser BrowserKind.ofToml
  let headless ← settingOr fields "headless" default.headless Value.bool?
  return { url, browser, headless }

def CheckSettings.ofToml (written : Value) : Option CheckSettings := do
  let fields ← written.fields? fieldNames
  let timeout ← settingOr fields "timeout_ms" default.timeout Value.natural?
  let interval ← settingOr fields "poll_interval_ms" default.interval Value.natural?
  let debug ← settingOr fields "debug" default.debug Value.bool?
  let base ← settingOr fields "base_url" default.base fun value => value.text?.map some
  return { timeout, interval, debug, base }

structure Settings where
  session : SessionSettings
  checking : CheckSettings
  deriving DecidableEq, Repr, Inhabited

namespace Settings

def default : Settings := { session := SessionSettings.default, checking := CheckSettings.default }

def ofText (text : String) : Option Settings := do
  let tables ← Toml.read text
  let session ← settingOr tables "webdriver" default.session SessionSettings.ofToml
  let checking ← settingOr tables "checker" default.checking CheckSettings.ofToml
  return { session, checking }

def toJson (s : Settings) : Json :=
  .record [("webdriver", s.session.toJson), ("checker", s.checking.toJson)]

end Settings

end PageCheck
