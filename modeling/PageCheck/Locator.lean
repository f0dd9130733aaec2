import PageCheck.Json.Basic

/-!
Locators: how an element is looked for. A locator is written as a record with exactly one field,
whose name is the strategy and whose text is the selector.
-/
namespace PageCheck

inductive Strategy where
  | css | xpath | id | name | className | linkText | tagName
  deriving DecidableEq, Repr, Inhabited

namespace Strategy

def all : List Strategy := [css, xpath, id, name, className, linkText, tagName]

def key : Strategy → String
  | css => "css"
  | xpath => "xpath"
  | id => "id"
  | name => "name"
  | className => "className"
  | linkText => "linkText"
  | tagName => "tagName"

def title : Strategy → String
  | css => "css selector"
  | xpath => "xpath"
  | id => "id"
  | name => "name"
  | className => "class name"
  | linkText => "link text"
  | tagName => "tag name"

def ofKey? (key : String) : Option Strategy := all.find? fun s => s.key = key

@[simp] theorem ofOwnKey (s : Strategy) : ofKey? s.key = some s := by
  cases s <;> decide

end Strategy

structure Locator where
  strategy : Strategy
  selector : String
  deriving DecidableEq, Repr, Inhabited

namespace Locator

def display (l : Locator) : String :=
  "By(" ++ l.strategy.title ++ ", " ++ l.selector ++ ")"

def toJson (l : Locator) : Json := .record [(l.strategy.key, .text l.selector)]

def textFields : Fields → Option (Keyed String)
  | [] => some []
  | (name, .text value) :: rest => (textFields rest).map ((name, value) :: ·)
  | _ :: _ => none

def ofTexts (fields : Keyed String) : Option Locator :=
  match Keyed.sorted fields with
  | [(key, selector)] => (Strategy.ofKey? key).map fun strategy => { strategy, selector }
  | _ => none

def ofJson : Json → Option Locator
  | .record fields => (textFields fields).bind ofTexts
  | _ => none

@[simp] theorem rereads (l : Locator) : ofJson l.toJson = some l := by
  simp [toJson, ofJson, textFields, ofTexts, Keyed.sorted, Keyed.insert]

end Locator

end PageCheck
