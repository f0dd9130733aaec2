import PageCheck.Settings.Checking

/-!
Settings of the browser session: the address of the server, the browser, and whether it shows a
window.
-/
namespace PageCheck

inductive BrowserKind where
  | chrome | firefox
  deriving DecidableEq, Repr, Inhabited

def BrowserKind.key : BrowserKind → String
  | .chrome => "chrome"
  | .firefox => "firefox"

def BrowserKind.ofKey? (key : String) : Option BrowserKind :=
  [chrome, firefox].find? fun kind => kind.key = key

def BrowserKind.ofJson : Json → Option BrowserKind
  | .text key => ofKey? key
  | .record [(key, .null)] => ofKey? key
  | _ => none

structure SessionSettings where
  url : String
  browser : BrowserKind
  headless : Bool
  deriving DecidableEq, Repr, Inhabited

namespace SessionSettings

def default : SessionSettings :=
  { url := "http://localhost:9515", browser := .chrome, headless := true }

def fieldNames : List String := ["url", "browser", "headless"]

def ofJson (written : Json) : Option SessionSettings := do
  let fields ← Json.openFields fieldNames written
  let url ← settingOr fields "url" default.url Json.text?
  let browser ← settingOr fields "browser" default.browser BrowserKind.ofJson
  let headless ← settingOr fields "headless" default.headless Json.bool?
  return { url, browser, headless }

def toJson (s : SessionSettings) : Json :=
  .record [("url", .text s.url), ("browser", .text s.browser.key), ("headless", .bool s.headless)]

end SessionSettings

end PageCheck
