import PageCheck.Toml.Scalar
import PageCheck.Toml.Text

/-!
Reading documents of keys and tables, line by line. Each reader takes the text and returns what it
read and what follows it; the first number of the mutual readers bounds the calls and is computed
from the text, the second is the number of containers that may still be entered.
-/
namespace PageCheck.Toml

def depthLimit : Nat := 79

def skipSpace (cs : List Char) : List Char := cs.dropWhile isSpace

def skipComment (cs : List Char) : List Char :=
  match cs with
  | '#' :: rest => rest.dropWhile isPlain
  | _ => cs

def afterLine? (cs : List Char) : Option (List Char) :=
  match skipComment (skipSpace cs) with
  | [] => some []
  | rest => afterBreak? rest

def skipLines : (turns : Nat) → List Char → List Char
  | 0, cs => cs
  | turns + 1, cs =>
    match skipComment (skipBlankLines (cs.length + 1) cs) with
    | [] => []
    | rest => if rest.length = cs.length then rest else skipLines turns rest

def skipBetween (cs : List Char) : List Char := skipLines (cs.length + 1) cs

def isKeyChar (c : Char) : Bool := c.isAlphanum || c = '-' || c = '_'

def readSimpleKey (cs : List Char) : Option (String × List Char) :=
  match cs with
  | [] => none
  | c :: _ =>
    if c = '\x22' ∨ c = '\'' then readLineString cs
    else
      match cs.takeWhile isKeyChar with
      | [] => none
      | key => some (String.ofList key, cs.dropWhile isKeyChar)

def readKeys : (turns : Nat) → List Char → Option (List String × List Char)
  | 0, _ => none
  | turns + 1, cs => do
    let (key, rest) ← readSimpleKey (skipSpace cs)
    match skipSpace rest with
    | '.' :: rest =>
      let (keys, rest) ← readKeys turns rest
      return (key :: keys, rest)
    | rest => return ([key], rest)

def readKey (cs : List Char) : Option (List String × String × List Char) := do
  let (keys, rest) ← readKeys (cs.length + 1) cs
  let last ← keys.getLast?
  if keys.length ≤ depthLimit then some (keys.dropLast, last, rest) else none

mutual

def readValue : (fuel depth : Nat) → List Char → Option (Value × List Char)
  | 0, _, _ => none
  | _, _, [] => none
  | fuel + 1, depth, c :: rest =>
    if c = '[' then
      match depth with
      | 0 => none
      | depth + 1 => (readItems fuel depth rest).map fun (items, rest) => (.list items, rest)
    else if c = '\x7b' then
      match depth with
      | 0 => none
      | depth + 1 =>
        match skipSpace rest with
        | '\x7d' :: rest => some (.table .inline [], rest)
        | _ => (readPairs fuel depth (Table.ofKind .inline) rest).map fun (t, rest) =>
            (t.toValue, rest)
    else if c = '\x22' ∨ c = '\'' then
      (readString (c :: rest)).map fun (s, rest) => (.text s, rest)
    else if c = 't' then (Text.after? ['r', 'u', 'e'] rest).map (.bool true, ·)
    else if c = 'f' then (Text.after? ['a', 'l', 's', 'e'] rest).map (.bool false, ·)
    else readNumeric (c :: rest)

def readItems : (fuel depth : Nat) → List Char → Option (List Value × List Char)
  | 0, _, _ => none
  | fuel + 1, depth, cs =>
    match skipBetween cs with
    | ']' :: rest => some ([], rest)
    | cs => do
      let (item, rest) ← readValue fuel depth cs
      match skipBetween rest with
      | ',' :: rest =>
        let (items, rest) ← readItems fuel depth rest
        some (item :: items, rest)
      | ']' :: rest => some ([item], rest)
      | _ => none

def readPairs : (fuel depth : Nat) → Table → List Char → Option (Table × List Char)
  | 0, _, _, _ => none
  | fuel + 1, depth, t, cs => do
    let (path, key, rest) ← readKey cs
    let rest ← Text.after? ['='] rest
    let (value, rest) ← readValue fuel depth (skipSpace rest)
    let t ← t.assignAt path key value
    match skipSpace rest with
    | ',' :: rest => readPairs fuel depth t rest
    | '\x7d' :: rest => some (t, rest)
    | _ => none

end

structure Draft where
  root : Table
  current : List String
  deriving Repr, Inhabited

namespace Draft

def start : Draft := { root := Table.ofKind .declared, current := [] }

def change (d : Draft) (path : List String) (act : Table → Option Table) : Option Draft :=
  (d.root.update .passed act path).map fun root => { d with root }

def readHeader (d : Draft) (cs : List Char) : Option (Draft × List Char) := do
  let (path, key, rest) ← readKey cs
  let rest ← afterLine? (← Text.after? [']'] rest)
  let d ← d.change path (Table.declare key)
  return ({ d with current := path ++ [key] }, rest)

def readRepeatedHeader (d : Draft) (cs : List Char) : Option (Draft × List Char) := do
  let (path, key, rest) ← readKey cs
  let rest ← afterLine? (← Text.after? [']', ']'] rest)
  let d ← d.change path (Table.declareNext key)
  return ({ d with current := path ++ [key] }, rest)

def readPair (d : Draft) (cs : List Char) : Option (Draft × List Char) := do
  let (path, key, rest) ← readKey cs
  let rest ← Text.after? ['='] rest
  let cs := skipSpace rest
  let (value, rest) ← readValue (2 * cs.length + 2) depthLimit cs
  let rest ← afterLine? rest
  let d ← d.change d.current (Table.assignAt path key value)
  return (d, rest)

def readLine (d : Draft) (cs : List Char) : Option (Draft × List Char) :=
  match cs with
  | '#' :: _ => (afterLine? cs).map (d, ·)
  | '[' :: '[' :: rest => d.readRepeatedHeader rest
  | '[' :: rest => d.readHeader rest
  | _ =>
    match afterBreak? cs with
    | some rest => some (d, rest)
    | none => d.readPair cs

def readLines : (turns : Nat) → Draft → List Char → Option Draft
  | 0, _, _ => none
  | turns + 1, d, cs =>
    match skipSpace cs with
    | [] => some d
    | cs => do
      let (d, rest) ← d.readLine cs
      readLines turns d rest

end Draft

def read (text : String) : Option Entries :=
  let cs := text.toList
  let cs := (Text.after? ['\ufeff'] cs).getD cs
  (Draft.readLines (cs.length + 1) Draft.start cs).map fun d => d.root.entries

end PageCheck.Toml
