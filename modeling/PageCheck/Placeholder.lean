import PageCheck.Failure

/-!
Placeholders: references to entries of a mapping, with text appended. A reference without appended
segments stands for the entry itself; with segments it stands for text, the concatenation of all
its parts in reading order.
-/
namespace PageCheck

inductive Segment where
  | literal (text : String)
  | reference (key : String) (append : List Segment)
  deriving Repr, Inhabited

structure Placeholder where
  key : String
  append : List Segment
  deriving Repr, Inhabited

mutual

def Segment.decEq : (a b : Segment) → Decidable (a = b)
  | .literal a, .literal b =>
    if h : a = b then .isTrue (by rw [h]) else .isFalse (by simp [h])
  | .literal _, .reference _ _ => .isFalse (by simp)
  | .reference _ _, .literal _ => .isFalse (by simp)
  | .reference k a, .reference l b =>
    if h : k = l then
      match Segment.decEqList a b with
      | .isTrue same => .isTrue (by rw [h, same])
      | .isFalse differ => .isFalse (by simp [differ])
    else .isFalse (by simp [h])

def Segment.decEqList : (a b : List Segment) → Decidable (a = b)
  | [], [] => .isTrue rfl
  | [], _ :: _ => .isFalse (by simp)
  | _ :: _, [] => .isFalse (by simp)
  | a :: as, b :: bs =>
    match Segment.decEq a b with
    | .isTrue h =>
      match Segment.decEqList as bs with
      | .isTrue same => .isTrue (by rw [h, same])
      | .isFalse differ => .isFalse (by simp [differ])
    | .isFalse h => .isFalse (by simp [h])

end

instance : DecidableEq Segment := Segment.decEq

deriving instance DecidableEq for Placeholder

inductive Entry where
  | bool (value : Bool)
  | number (value : Number)
  | text (value : String)
  | locator (value : Locator)
  deriving DecidableEq, Repr, Inhabited

namespace Entry

def toText : Entry → String
  | bool true => "true"
  | bool false => "false"
  | number value => value.toText
  | text value => value
  | locator value => value.display

def describe : Entry → String
  | bool _ => "a boolean"
  | number _ => "a number"
  | text _ => "text"
  | locator _ => "a locator"

def toJson : Entry → Json
  | bool value => .bool value
  | number value => .number value
  | text value => .text value
  | locator value => value.toJson

def ofJson : Json → Option Entry
  | .bool value => some (bool value)
  | .number value => some (number value)
  | .text value => some (text value)
  | other => (Locator.ofJson other).map locator

end Entry

abbrev Mapping := Keyed Entry

namespace Mapping

def entriesOf : Fields → Option (Keyed Entry)
  | [] => some []
  | (name, value) :: rest => do
    let entry ← Entry.ofJson value
    let others ← entriesOf rest
    return (name, entry) :: others

def ofJson : Json → Option Mapping
  | .record fields => (entriesOf fields).map Keyed.sorted
  | _ => none

def toJson (m : Mapping) : Json := .record (m.map fun pair => (pair.1, pair.2.toJson))

def entry (m : Mapping) (key : String) : Except Failure Entry :=
  match m.get? key with
  | some found => .ok found
  | none => .error (.missingPlaceholder key)

end Mapping

mutual

def Segment.resolve (m : Mapping) : Segment → Except Failure String
  | .literal text => .ok text
  | .reference key append => do
    let base ← m.entry key
    let rest ← Segment.resolveAll m append
    return base.toText ++ rest

def Segment.resolveAll (m : Mapping) : List Segment → Except Failure String
  | [] => .ok ""
  | segment :: rest => do
    let first ← segment.resolve m
    let others ← Segment.resolveAll m rest
    return first ++ others

end

namespace Placeholder

def resolve (m : Mapping) (p : Placeholder) : Except Failure Entry := do
  let base ← m.entry p.key
  match p.append with
  | [] => return base
  | segments =>
    let rest ← Segment.resolveAll m segments
    return .text (base.toText ++ rest)

end Placeholder

mutual

def Segment.toJson : Segment → Json
  | .literal text => .text text
  | .reference key append =>
    .record (("placeholder", .text key) :: Json.nonempty "append" (Segment.toJsonAll append))

def Segment.toJsonAll : List Segment → List Json
  | [] => []
  | segment :: rest => segment.toJson :: Segment.toJsonAll rest

end

def Placeholder.toJson (p : Placeholder) : Json := (Segment.reference p.key p.append).toJson

mutual

def Segment.ofJson : Json → Option Segment
  | .text text => some (.literal text)
  | .list [.text key] => some (.reference key [])
  | .list [.text key, .list append] =>
    (Segment.ofJsonAll append).map (.reference key ·)
  | .record [("placeholder", .text key)] => some (.reference key [])
  | .record [("placeholder", .text key), ("append", .list append)] =>
    (Segment.ofJsonAll append).map (.reference key ·)
  | .record [("append", .list append), ("placeholder", .text key)] =>
    (Segment.ofJsonAll append).map (.reference key ·)
  | _ => none

def Segment.ofJsonAll : List Json → Option (List Segment)
  | [] => some []
  | item :: rest => do
    let first ← Segment.ofJson item
    let others ← Segment.ofJsonAll rest
    return first :: others

end

def Placeholder.ofJson (value : Json) : Option Placeholder :=
  match Segment.ofJson value with
  | some (.reference key append) => some { key, append }
  | _ => none

end PageCheck
