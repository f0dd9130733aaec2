import PageCheck.Yaml.Node

/-!
Document values with all repetitions written out. A repetition stands for the last node whose
anchor got the same number as the one it refers to; anchors are numbered by how many names there
are before them. Depth and the number of repetitions are bounded.
-/
namespace PageCheck.Yaml

inductive Value where
  | scalar (tag : Option String) (scalar : ScalarToken)
  | sequence (tag : Option String) (items : List Value)
  | mapping (tag : Option String) (pairs : List (Value × Value))
  deriving Repr, Inhabited

inductive Linked where
  | scalar (tag : Option String) (scalar : ScalarToken)
  | sequence (tag : Option String) (items : List Linked)
  | mapping (tag : Option String) (pairs : List (Linked × Linked))
  | repeated (number : Nat)
  deriving Repr, Inhabited

structure Anchored where
  number : Nat
  order : Nat
  node : Linked
  deriving Repr, Inhabited

structure Links where
  numbers : List (String × Nat)
  anchored : List Anchored
  met : Nat
  events : Nat
  deriving Repr, Inhabited

namespace Links

def start : Links := { numbers := [], anchored := [], met := 0, events := 0 }

def enter (anchor : Option String) (events : Nat) (l : Links) : Links :=
  let l := { l with met := l.met + 1, events := l.events + events }
  match anchor with
  | none => l
  | some name =>
    { l with numbers := (name, l.numbers.length) :: l.numbers.filter fun known => known.1 ≠ name }

def leave (l : Links) (anchor : Option String) (before : Links) (node : Linked) : Links :=
  match anchor with
  | none => l
  | some _ =>
    { l with anchored :=
        { number := before.numbers.length, order := before.met, node } :: l.anchored }

def target? (l : Links) (number : Nat) : Option Linked :=
  let latest := (l.anchored.filter fun a => a.number = number).foldl
    (fun best a => match best with
      | none => some a
      | some b => if b.order < a.order then some a else some b) none
  latest.map Anchored.node

end Links

mutual

def Node.link : Node → Links → Option (Linked × Links)
  | .scalar properties written, l =>
    let node := Linked.scalar properties.tag written
    some (node, ((l.enter properties.anchor 1).leave properties.anchor l node))
  | .alias name, l =>
    (l.numbers.lookup name).map fun number => (.repeated number, l.enter none 1)
  | .sequence properties items, l => do
    let (items, after) ← Node.linkAll items (l.enter properties.anchor 2)
    let node := Linked.sequence properties.tag items
    return (node, after.leave properties.anchor l node)
  | .mapping properties pairs, l => do
    let (pairs, after) ← Node.linkPairs pairs (l.enter properties.anchor 2)
    let node := Linked.mapping properties.tag pairs
    return (node, after.leave properties.anchor l node)

def Node.linkAll : List Node → Links → Option (List Linked × Links)
  | [], l => some ([], l)
  | node :: rest, l => do
    let (first, l) ← node.link l
    let (others, l) ← Node.linkAll rest l
    return (first :: others, l)

def Node.linkPairs : List (Node × Node) → Links → Option (List (Linked × Linked) × Links)
  | [], l => some ([], l)
  | (key, value) :: rest, l => do
    let (key, l) ← key.link l
    let (value, l) ← value.link l
    let (others, l) ← Node.linkPairs rest l
    return ((key, value) :: others, l)

end

abbrev Unfolding (α : Type) := Nat → Option (α × Nat)

namespace Unfolding

def each {α β : Type} (unfold : α → Unfolding β) : List α → Unfolding (List β)
  | [], left => some ([], left)
  | item :: rest, left => do
    let (first, left) ← unfold item left
    let (others, left) ← each unfold rest left
    return (first :: others, left)

def pair {α β : Type} (unfold : α → Unfolding β) (p : α × α) : Unfolding (β × β) := fun left => do
  let (first, left) ← unfold p.1 left
  let (second, left) ← unfold p.2 left
  return ((first, second), left)

end Unfolding

namespace Linked

def follow (links : Links) : Linked → Unfolding Linked
  | .repeated number, left =>
    match left with
    | 0 => none
    | left + 1 => (links.target? number).map (·, left)
  | node, left => some (node, left)

def unfold (links : Links) : (depth : Nat) → Linked → Unfolding Value
  | depth, node, left => do
    let (node, left) ← node.follow links left
    match depth, node with
    | _, .scalar tag written => return (.scalar tag written, left)
    | depth + 1, .sequence tag items =>
      let (items, left) ← Unfolding.each (unfold links depth) items left
      return (.sequence tag items, left)
    | depth + 1, .mapping tag pairs =>
      let (pairs, left) ← Unfolding.each (Unfolding.pair (unfold links depth)) pairs left
      return (.mapping tag pairs, left)
    | _, _ => none

end Linked

namespace Value

def depthLimit : Nat := 128

def repetitionsPerEvent : Nat := 100

def ofNode (node : Node) : Option Value := do
  let (linked, links) ← node.link .start
  let (value, _) ← linked.unfold links depthLimit (repetitionsPerEvent * links.events)
  return value

def ofText (text : String) : Option (Option Value) := do
  match ← Node.ofText text with
  | none => return none
  | some node => return some (← ofNode node)

end Value

end PageCheck.Yaml
