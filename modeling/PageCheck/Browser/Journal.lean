import PageCheck.Browser.World
import PageCheck.Json.Basic

/-!
A journal between the interpreter and the browser. It counts the calls of every name, lets planned
ones fail without reaching the browser, and keeps calls and events in order.
-/
namespace PageCheck.Browser

structure PlannedFault where
  call : String
  first : Nat
  last : Option Nat
  error : HostError
  deriving DecidableEq, Repr, Inhabited

def PlannedFault.covers (f : PlannedFault) (name : String) (number : Nat) : Bool :=
  f.call = name && f.first ≤ number && f.last.all fun last => number ≤ last

structure Call where
  start : Nat
  name : String
  arguments : List Json
  answer : Json
  deriving Repr, Inhabited

def Call.isEffect (c : Call) : Bool :=
  c.name ∈ ["goto", "click", "send_keys", "clear", "switch_to_frame", "switch_to_default_frame",
    "accept_alert", "dismiss_alert"]

structure Recorded (σ : Type) where
  host : σ
  faults : List PlannedFault
  counts : Keyed Nat
  calls : List Call
  events : List Event

def Handle.text (h : Handle) : String := toString h.generation ++ ":" ++ toString h.index

def Handle.toJson (h : Handle) : Json := .text h.text

def HostError.toJson (e : HostError) : Json := .record [("err", .text e.message)]

namespace Recorded

variable {σ : Type} [Host σ Handle]

def start (host : σ) (faults : List PlannedFault) : Recorded σ :=
  { host, faults, counts := [], calls := [], events := [] }

def cleared (r : Recorded σ) : Recorded σ := { r with calls := [], events := [] }

def note (r : Recorded σ) (name : String) (arguments : List Json) (number : Nat) (host : σ)
    (answer : Json) : Recorded σ :=
  { r with
    host
    counts := Keyed.insert name number r.counts
    calls := r.calls ++ [{ start := Clock.now r.host, name, arguments, answer }] }

def call {α : Type} (name : String) (arguments : List Json) (write : α → Json)
    (operation : EStateM HostError σ α) : EStateM HostError (Recorded σ) α := fun r =>
  let number := (r.counts.get? name).getD 0 + 1
  match r.faults.find? fun f => f.covers name number with
  | some f => .error f.error (r.note name arguments number r.host (HostError.toJson f.error))
  | none =>
    match operation r.host with
    | .ok value host => .ok value (r.note name arguments number host (write value))
    | .error e host => .error e (r.note name arguments number host (HostError.toJson e))

def nothing (_ : Unit) : Json := .null

def texts (values : List String) : Json := .list (values.map Json.text)

def handles (found : List Handle) : Json := .list (found.map Handle.toJson)

def locator (l : Locator) : Json := .text l.display

instance : Host (Recorded σ) Handle where
  now r := Clock.now r.host
  sleep time r := { r with host := Clock.sleep time r.host }
  emit event r := { r with host := Clock.emit event r.host, events := r.events ++ [event] }
  goto url := call "goto" [.text url] nothing (Host.goto url)
  currentUrl := call "current_url" [] Json.text Host.currentUrl
  outerHtml := call "outer_html" [] Json.text Host.outerHtml
  findAll l := call "find_all" [locator l] handles (Host.findAll l)
  findWithin h l := call "find_all_in" [h.toJson, locator l] handles (Host.findWithin h l)
  waitLocated l timeout :=
    call "wait_located" [locator l, Json.nat timeout] Handle.toJson (Host.waitLocated l timeout)
  waitVisible h timeout :=
    call "wait_visible" [h.toJson, Json.nat timeout] Handle.toJson (Host.waitVisible h timeout)
  isDisplayed h := call "is_displayed" [h.toJson] Json.bool (Host.isDisplayed h)
  tagName h := call "tag_name" [h.toJson] Json.text (Host.tagName h)
  attr h name := call "attribute" [h.toJson, .text name]
    (fun found => (found.map Json.text).getD .null) (Host.attr h name)
  text h := call "text" [h.toJson] Json.text (Host.text h)
  isSelected h := call "is_selected" [h.toJson] Json.bool (Host.isSelected h)
  click h := call "click" [h.toJson] nothing (Host.click h)
  sendKeys h keys := call "send_keys" [h.toJson, .text keys] nothing (Host.sendKeys h keys)
  clear h := call "clear" [h.toJson] nothing (Host.clear h)
  drainConsole := call "console_logs" [] texts Host.drainConsole
  enterFrame l := call "switch_to_frame" [locator l] nothing (Host.enterFrame l)
  leaveFrames := call "switch_to_default_frame" [] nothing Host.leaveFrames
  acceptDialog timeout :=
    call "accept_alert" [Json.nat timeout] nothing (Host.acceptDialog timeout)
  dismissDialog timeout :=
    call "dismiss_alert" [Json.nat timeout] nothing (Host.dismissDialog timeout)

end Recorded

end PageCheck.Browser
