import PageCheck.Keyed
import PageCheck.Text.Blank
import PageCheck.Text.Find

/-!
Compound selectors: a tag and any number of requirements on classes, the id and other attributes.
-/
namespace PageCheck.Browser

inductive Requirement where
  | ofClass (name : String)
  | ofId (id : String)
  | withAttr (name : String)
  | attrIs (name value : String)
  | unmet
  deriving DecidableEq, Repr, Inhabited

/-- A selector; an empty tag stands for every tag. -/
structure Selector where
  tag : String
  requirements : List Requirement
  deriving DecidableEq, Repr, Inhabited

namespace Selector

def isMark (c : Char) : Bool := c = '.' || c = '#' || c = '['

def ofBrackets (text : List Char) : Requirement :=
  match Text.cut (· = '=') text with
  | (name, _ :: value) =>
    .attrIs (String.ofList name) (String.ofList (Text.stripWhile (· = '\x22') value))
  | (name, []) => .withAttr (String.ofList name)

def readRequirements : (limit : Nat) → List Char → List Requirement
  | _, [] => []
  | 0, _ => [.unmet]
  | limit + 1, mark :: text =>
    if mark = '[' then
      match Text.cut (· = ']') text with
      | (inside, _ :: rest) => ofBrackets inside :: readRequirements limit rest
      | (_, []) => [.unmet]
    else if mark = '.' then
      let (name, rest) := Text.cut isMark text
      .ofClass (String.ofList name) :: readRequirements limit rest
    else if mark = '#' then
      let (id, rest) := Text.cut isMark text
      .ofId (String.ofList id) :: readRequirements limit rest
    else [.unmet]

def read (text : String) : Selector :=
  let (tag, rest) := Text.cut isMark (Text.trim text.toList)
  { tag := String.ofList tag, requirements := readRequirements rest.length rest }

end Selector

end PageCheck.Browser
