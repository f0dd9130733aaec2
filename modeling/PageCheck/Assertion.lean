import PageCheck.Action

/-!
Assertions: what a step requires of the page. An assertion asks for the presence or absence of an
element, or compares values read from the page by a criterion.
-/
namespace PageCheck

inductive Target where
  | element (locator : Deferred Locator)
  | html
  | url
  deriving DecidableEq, Repr, Inhabited

inductive ValueKind where
  | checkbox | radio | select
  | attr (name : String)
  deriving DecidableEq, Repr, Inhabited

inductive Expected where
  | one (value : Deferred String)
  | many (values : List (Deferred String))
  deriving DecidableEq, Repr, Inhabited

inductive Relation where
  | equals | notEquals | checked | unchecked | selected | unselected
  deriving DecidableEq, Repr, Inhabited

inductive Criterion where
  | relates (relation : Relation) (expected : Expected)
  | likes (expected : Deferred String)
  | notLikes (expected : Deferred String)
  | satisfies (predicate : String)
  deriving DecidableEq, Repr, Inhabited

structure Presence where
  target : Deferred Locator
  count : Option UInt64
  deriving DecidableEq, Repr, Inhabited

structure Comparison where
  target : Target
  criterion : Criterion
  kind : Option ValueKind
  count : Option UInt64
  deriving DecidableEq, Repr, Inhabited

inductive Demand where
  | present (presence : Presence)
  | absent (presence : Presence)
  | compare (comparison : Comparison)
  deriving DecidableEq, Repr, Inhabited

structure Assertion where
  demand : Demand
  timeout : Option Nat
  deriving DecidableEq, Repr, Inhabited

def Relation.directive : Relation → String
  | .equals => "equals"
  | .notEquals => "notEquals"
  | .checked => "checked"
  | .unchecked => "unchecked"
  | .selected => "selected"
  | .unselected => "unselected"

def Criterion.directive : Criterion → String
  | .relates relation _ => relation.directive
  | .likes _ => "likes"
  | .notLikes _ => "notLikes"
  | .satisfies _ => "satisfies"

def Demand.directive : Demand → String
  | .present _ => "exists"
  | .absent _ => "notExists"
  | .compare comparison => comparison.criterion.directive

def Assertion.directive (a : Assertion) : String := a.demand.directive

def Target.describe : Target → String
  | .element (.value locator) => locator.display
  | .element (.reference placeholder) => "placeholder `" ++ placeholder.key ++ "`"
  | .html => "html"
  | .url => "url"

def Target.resolve (m : Mapping) : Target → Except Failure Target
  | .element locator => do return .element (← locator.resolve m)
  | .html => .ok .html
  | .url => .ok .url

def Expected.resolve (m : Mapping) : Expected → Except Failure Expected
  | .one value => do return .one (← value.resolve m)
  | .many values => do return .many (← resolveItems (Deferred.resolve m) values)

def Criterion.resolve (m : Mapping) : Criterion → Except Failure Criterion
  | .relates relation expected => do return .relates relation (← expected.resolve m)
  | .likes expected => do return .likes (← expected.resolve m)
  | .notLikes expected => do return .notLikes (← expected.resolve m)
  | .satisfies predicate => .ok (.satisfies predicate)

def Presence.resolve (m : Mapping) (p : Presence) : Except Failure Presence := do
  return { p with target := ← p.target.resolve m }

def Comparison.resolve (m : Mapping) (c : Comparison) : Except Failure Comparison := do
  let target ← c.target.resolve m
  let criterion ← c.criterion.resolve m
  return { c with target, criterion }

def Demand.resolve (m : Mapping) : Demand → Except Failure Demand
  | .present presence => do return .present (← presence.resolve m)
  | .absent presence => do return .absent (← presence.resolve m)
  | .compare comparison => do return .compare (← comparison.resolve m)

def Assertion.resolve (m : Mapping) (a : Assertion) : Except Failure Assertion := do
  return { a with demand := ← a.demand.resolve m }

def Target.toJson : Target → Json
  | .element locator => locator.toJson
  | .html => .text "html"
  | .url => .text "url"

def ValueKind.toJson : ValueKind → Json
  | .checkbox => .text "checkbox"
  | .radio => .text "radio"
  | .select => .text "select"
  | .attr name => .record [("attr", .text name)]

def Expected.written : Expected → String × Json
  | .one value => ("value", value.toJson)
  | .many values => ("values", .list (values.map Deferred.toJson))

def Criterion.written : Criterion → String × Json
  | .relates _ expected => expected.written
  | .likes expected => ("value", expected.toJson)
  | .notLikes expected => ("value", expected.toJson)
  | .satisfies predicate => ("predicate", .text predicate)

def writtenCount (count : Option UInt64) : Fields :=
  Json.optional "count" (count.map fun n => Json.nat n.toNat)

def Demand.written : Demand → Json × Fields
  | .present presence => (presence.target.toJson, writtenCount presence.count)
  | .absent presence => (presence.target.toJson, writtenCount presence.count)
  | .compare comparison =>
    (comparison.target.toJson, comparison.criterion.written ::
      Json.optional "type" (comparison.kind.map ValueKind.toJson) ++
      writtenCount comparison.count)

def Assertion.toJson (a : Assertion) : Json :=
  Json.canonical (.record ((a.directive, a.demand.written.1) :: a.demand.written.2 ++
    Json.optional "timeout" (a.timeout.map Json.nat)))

end PageCheck
