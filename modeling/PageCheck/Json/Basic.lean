import PageCheck.Decimal.Binary64
import PageCheck.Keyed

/-!
The value tree that documents of every format are read into, and that results are written from. The
fields of a record stand in the order in which they were written and may repeat; `Json.canonical`
sorts them and keeps the last field of each name. Integers have no bound of their own: each reader
sets its own, and a written duration may be wider than what any of them accepts.
-/
namespace PageCheck

open Decimal (Binary64)

inductive Number where
  | integer (value : Int)
  | real (value : Binary64)
  deriving DecidableEq, Repr, Inhabited

inductive Json where
  | null
  | bool (value : Bool)
  | number (value : Number)
  | text (value : String)
  | list (items : List Json)
  | record (fields : List (String × Json))
  deriving Repr, Inhabited

abbrev Fields := Keyed Json

namespace Json

def maxNatural : Nat := 0xffffffffffffffff

def optional (name : String) (value : Option Json) : Fields :=
  (value.map fun v => (name, v)).toList

def nonempty (name : String) (items : List Json) : Fields :=
  if items.isEmpty then [] else [(name, .list items)]

def nat (n : Nat) : Json := .number (.integer n)

end Json

mutual

def Json.canonical : Json → Json
  | .list items => .list (Json.canonicalItems items)
  | .record fields => .record (Keyed.sorted (Json.canonicalFields fields))
  | other => other

def Json.canonicalItems : List Json → List Json
  | [] => []
  | item :: rest => item.canonical :: Json.canonicalItems rest

def Json.canonicalFields : List (String × Json) → List (String × Json)
  | [] => []
  | (name, value) :: rest => (name, value.canonical) :: Json.canonicalFields rest

end

mutual

def Json.depth : Json → Nat
  | .list items => Json.depthItems items + 1
  | .record fields => Json.depthFields fields + 1
  | _ => 0

def Json.depthItems : List Json → Nat
  | [] => 0
  | item :: rest => max item.depth (Json.depthItems rest)

def Json.depthFields : List (String × Json) → Nat
  | [] => 0
  | (_, value) :: rest => max value.depth (Json.depthFields rest)

end

end PageCheck
