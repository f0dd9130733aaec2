/-!
Values of a document of keys and tables, and how tables grow. A table may be declared by a header,
passed on the way to one, made by a dotted key, or written in braces; which of these it is decides
what may still be added to it. No key is given a value twice.
-/
namespace PageCheck.Toml

inductive TableKind where
  | declared
  | passed
  | dotted
  | inline
  deriving DecidableEq, Repr, Inhabited

inductive Value where
  | text (value : String)
  | integer (value : Int)
  | real (written : List Char)
  | bool (value : Bool)
  | moment (written : List Char)
  | list (items : List Value)
  | table (kind : TableKind) (entries : List (String × Value))
  | tables (items : List (List (String × Value)))
  deriving Repr, Inhabited

abbrev Entries := List (String × Value)

structure Table where
  kind : TableKind
  entries : Entries
  deriving Repr, Inhabited

namespace Table

def ofKind (kind : TableKind) : Table := { kind, entries := [] }

def toValue (t : Table) : Value := .table t.kind t.entries

def get? (t : Table) (key : String) : Option Value := t.entries.lookup key

def append (key : String) (value : Value) (t : Table) : Table :=
  { t with entries := t.entries ++ [(key, value)] }

def replace (key : String) (value : Value) (t : Table) : Table :=
  { t with entries := t.entries.map fun e => if e.1 = key then (key, value) else e }

def admits (way kind : TableKind) : Bool :=
  match kind with
  | .inline => false
  | .declared => way ≠ .dotted
  | .passed | .dotted => true

/-- Changes the table at the end of a path. Missing tables on the way are made, of the kind `way`;
of the tables of a repeated header the path leads through the last. -/
def update (way : TableKind) (act : Table → Option Table) : List String → Table → Option Table
  | [], t => act t
  | key :: path, t =>
    match t.get? key with
    | none => do
      let inner ← update way act path (ofKind way)
      return t.append key inner.toValue
    | some (.table kind entries) =>
      if admits way kind then do
        let inner ← update way act path { kind, entries }
        return t.replace key inner.toValue
      else none
    | some (.tables items) => do
      let last ← items.getLast?
      let inner ← update way act path { kind := .declared, entries := last }
      return t.replace key (.tables (items.dropLast ++ [inner.entries]))
    | some _ => none

def assign (isDotted : Bool) (key : String) (value : Value) (t : Table) : Option Table :=
  if decide (t.kind = .dotted) = isDotted ∧ (t.get? key).isNone then some (t.append key value)
  else none

def assignAt (path : List String) (key : String) (value : Value) (t : Table) : Option Table :=
  update .dotted (assign (!path.isEmpty) key value) path t

def declare (key : String) (t : Table) : Option Table :=
  match t.get? key with
  | none => some (t.append key (.table .declared []))
  | some (.table .passed entries) => some (t.replace key (.table .declared entries))
  | some _ => none

def declareNext (key : String) (t : Table) : Option Table :=
  match t.get? key with
  | none => some (t.append key (.tables [[]]))
  | some (.tables items) => some (t.replace key (.tables (items ++ [[]])))
  | some _ => none

end Table

end PageCheck.Toml
