import PageCheck.Json.Basic
import PageCheck.Decimal.Notation

/-!
Documents as text. `Json.compact` writes no white space; `Json.pretty` indents by two spaces and
puts every item on its own line. Strings keep all characters but quotes, backslashes and controls.
-/
namespace PageCheck

def Json.escapeChar (c : Char) : List Char :=
  if c = '\x22' then ['\\', '\x22']
  else if c = '\\' then ['\\', '\\']
  else if c = '\n' then ['\\', 'n']
  else if c = '\r' then ['\\', 'r']
  else if c = '\t' then ['\\', 't']
  else if c = '\x08' then ['\\', 'b']
  else if c = '\x0c' then ['\\', 'f']
  else if c.toNat < 0x20 then '\\' :: 'u' :: Text.hex4 c.toNat
  else [c]

def Json.writeText (text : String) : List Char :=
  '\x22' :: text.toList.flatMap Json.escapeChar ++ ['\x22']

def Number.write : Number → List Char
  | .integer value => Text.decimalInt value
  | .real value => Decimal.Style.document.write value

def Number.toText (n : Number) : String := String.ofList n.write

mutual

def Json.write : Json → List Char
  | .null => ['n', 'u', 'l', 'l']
  | .bool true => ['t', 'r', 'u', 'e']
  | .bool false => ['f', 'a', 'l', 's', 'e']
  | .number value => value.write
  | .text value => Json.writeText value
  | .list items => '[' :: Json.writeItems items ++ [']']
  | .record fields => '\x7b' :: Json.writeFields fields ++ ['\x7d']

def Json.writeItems : List Json → List Char
  | [] => []
  | [item] => item.write
  | item :: rest => item.write ++ ',' :: Json.writeItems rest

def Json.writeFields : List (String × Json) → List Char
  | [] => []
  | [(name, value)] => Json.writeText name ++ ':' :: value.write
  | (name, value) :: rest =>
    Json.writeText name ++ ':' :: value.write ++ ',' :: Json.writeFields rest

end

def Json.compact (value : Json) : String := String.ofList value.write

def Json.newLine (level : Nat) : List Char := '\n' :: List.replicate (2 * level) ' '

mutual

def Json.writeIndented (level : Nat) : Json → List Char
  | .list [] => ['[', ']']
  | .list items =>
    '[' :: Json.newLine (level + 1) ++ Json.writeIndentedItems (level + 1) items ++
      Json.newLine level ++ [']']
  | .record [] => ['\x7b', '\x7d']
  | .record fields =>
    '\x7b' :: Json.newLine (level + 1) ++ Json.writeIndentedFields (level + 1) fields ++
      Json.newLine level ++ ['\x7d']
  | .null => ['n', 'u', 'l', 'l']
  | .bool true => ['t', 'r', 'u', 'e']
  | .bool false => ['f', 'a', 'l', 's', 'e']
  | .number value => value.write
  | .text value => Json.writeText value

def Json.writeIndentedItems (level : Nat) : List Json → List Char
  | [] => []
  | [item] => item.writeIndented level
  | item :: rest =>
    item.writeIndented level ++ ',' :: Json.newLine level ++ Json.writeIndentedItems level rest

def Json.writeIndentedFields (level : Nat) : List (String × Json) → List Char
  | [] => []
  | [(name, value)] => Json.writeText name ++ ':' :: ' ' :: value.writeIndented level
  | (name, value) :: rest =>
    Json.writeText name ++ ':' :: ' ' :: value.writeIndented level ++ ',' :: Json.newLine level ++
      Json.writeIndentedFields level rest

end

def Json.pretty (value : Json) : String := String.ofList (value.writeIndented 0)

end PageCheck
