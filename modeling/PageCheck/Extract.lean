import PageCheck.Assertion
import PageCheck.Host

/-!
Reading values from the page. What is read from the matched elements depends on the declared kind,
or else on the first of them: the chosen options of a select, the values of the checked boxes, the
values of other inputs, or the displayed text.
-/
namespace PageCheck

inductive Reading where
  | select | checkbox | radio | input | innerText
  | attr (name : String)
  | html | url
  deriving DecidableEq, Repr, Inhabited

def Reading.label : Reading → String
  | .select => "select value"
  | .checkbox => "checkbox value"
  | .radio => "radio value"
  | .input => "input value"
  | .innerText => "inner text"
  | .attr name => name ++ " attribute"
  | .html => "html"
  | .url => "url"

structure Extracted where
  values : List String
  reading : Reading
  matched : Nat
  deriving DecidableEq, Repr, Inhabited

namespace Extract

variable {σ E : Type} [Host σ E]

def optionLocator : Locator := { strategy := .css, selector := "option" }

def valueOf (element : E) : Check σ String := do
  return (← Check.ask (Host.attr element "value")).getD ""

def lowerAscii (text : String) : String := String.ofList (text.toList.map Char.toLower)

def detect (element : E) : Check σ Reading := do
  let tag := lowerAscii (← Check.ask (Host.tagName element))
  if tag = "select" then return .select
  let kind := (← Check.ask (Host.attr element "type")).map lowerAscii
  if kind = some "checkbox" then return .checkbox
  else if kind = some "radio" then return .radio
  else if tag = "input" then return .input
  else return .innerText

def selectedValues : List E → Check σ (List String)
  | [] => return []
  | element :: rest => do
    let here ← if ← Check.ask (Host.isSelected element) then List.singleton <$> valueOf element
      else pure []
    let others ← selectedValues rest
    return here ++ others

def selectValues : List E → Check σ (List String)
  | [] => return []
  | select :: rest => do
    let options ← Check.ask (Host.findWithin select optionLocator)
    let here ← selectedValues options
    let others ← selectValues rest
    return here ++ others

def eachValue (read : E → Check σ String) : List E → Check σ (List String)
  | [] => return []
  | element :: rest => do
    let here ← read element
    let others ← eachValue read rest
    return here :: others

def readingOf (kind : Option ValueKind) (elements : List E) : Check σ Reading :=
  match kind, elements with
  | some (.attr name), _ => return .attr name
  | some .select, _ => return .select
  | some .checkbox, _ => return .checkbox
  | some .radio, _ => return .radio
  | none, first :: _ => detect first
  | none, [] => return .innerText

def valuesBy (reading : Reading) (elements : List E) : Check σ (List String) :=
  match reading with
  | .attr name => eachValue (fun e => do return (← Check.ask (Host.attr e name)).getD "") elements
  | .select => selectValues elements
  | .checkbox | .radio => selectedValues elements
  | .input => eachValue valueOf elements
  | .innerText | .html | .url => eachValue (fun e => Check.ask (Host.text e)) elements

def fromElements (kind : Option ValueKind) (elements : List E) : Check σ Extracted := do
  let reading ← readingOf kind elements
  let values ← valuesBy reading elements
  return { values, reading, matched := elements.length }

def fromTarget (target : Target) (kind : Option ValueKind) : Check σ (Option Extracted) := do
  match target with
  | .html => return some { values := [← Check.ask Host.outerHtml], reading := .html, matched := 1 }
  | .url => return some { values := [← Check.ask Host.currentUrl], reading := .url, matched := 1 }
  | .element locator =>
    let locator ← Check.ofExcept locator.get
    match ← Check.ask (Host.findAll locator) with
    | [] => return none
    | elements => some <$> fromElements kind elements

end Extract

end PageCheck
