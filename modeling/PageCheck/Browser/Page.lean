import PageCheck.Browser.Selector
import PageCheck.Locator

/-!
Pages of the in-memory browser: flat lists of nodes, each with the time it is there, the frame it
is in, and what a click on it does.
-/
namespace PageCheck.Browser

inductive Effect where
  | navigate (url : String)
  | alert (text : String)
  | reveal (id : String)
  | setText (id text : String)
  | log (entry : String)
  deriving DecidableEq, Repr, Inhabited

structure Node where
  tag : String
  text : String
  attrs : Keyed String
  selected : Bool
  hidden : Bool
  /-- The id of the select that an option belongs to. -/
  parent : Option String
  frame : Option String
  appearAfter : Option Nat
  removeAfter : Option Nat
  onClick : List Effect
  deriving DecidableEq, Repr, Inhabited

structure Page where
  html : String
  nodes : List Node
  logs : List String
  deriving DecidableEq, Repr, Inhabited

namespace Node

def attr? (n : Node) (name : String) : Option String := n.attrs.get? name

def hasClass (n : Node) (name : String) : Bool :=
  (n.attr? "class").any fun classes => name.toList ∈ Text.words classes.toList

def meets (n : Node) : Requirement → Bool
  | .ofClass name => n.hasClass name
  | .ofId id => n.attr? "id" = some id
  | .withAttr name => (n.attr? name).isSome
  | .attrIs name value => n.attr? name = some value
  | .unmet => false

def meetsSelector (n : Node) (s : Selector) : Bool :=
  (s.tag = "" || s.tag = n.tag) && s.requirements.all n.meets

def isMatch (n : Node) (l : Locator) : Bool :=
  match l.strategy with
  | .css => n.meetsSelector (Selector.read l.selector)
  | .xpath => Text.after? ['/', '/'] l.selector.toList = some n.tag.toList
  | .id => n.attr? "id" = some l.selector
  | .name => n.attr? "name" = some l.selector
  | .className => n.hasClass l.selector
  | .linkText => n.tag = "a" && n.text = l.selector
  | .tagName => n.tag = l.selector

def isPresent (n : Node) (elapsed : Nat) : Bool :=
  n.appearAfter.all (fun time => time ≤ elapsed) &&
    n.removeAfter.all (fun time => elapsed < time)

def displayedText (n : Node) : String := if n.hidden then "" else n.text

def setAttr (n : Node) (name value : String) : Node :=
  { n with attrs := Keyed.insert name value n.attrs }

def typeText (n : Node) (text : String) : Node :=
  n.setAttr "value" ((n.attr? "value").getD "" ++ text)

end Node

end PageCheck.Browser
