import PageCheck.Scenario.Reader
import PageCheck.Yaml.Schema

/-!
Reading scenarios, mappings and locators from block-structured documents. A document is turned into
a record tree first. What a place expects decides how an empty value is understood: as no value, as
an empty list, or as an empty map. Keys are read as their text.
-/
namespace PageCheck.Yaml

namespace Scalar

def fits (n : Int) : Bool := -0x8000000000000000 ≤ n && n ≤ 0xffffffffffffffff

def toJson : Scalar → Option Json
  | .null => some .null
  | .bool value => some (.bool value)
  | .integer value => if fits value then some (.number (.integer value)) else none
  | .real value => some (.number (.real value))
  | .notFinite => some .null
  | .text value => some (.text value)

end Scalar

namespace Value

def hasOwnTag (tag : Option String) : Bool := tag.any fun t => t.toList.head? = some '!'

def isBlank : Value → Bool
  | .scalar _ s => s.plain && s.text = ""
  | _ => false

def keyText : Value → Option String
  | .scalar _ s => some s.text
  | _ => none

mutual

def toJson : Value → Option Json
  | .scalar tag s => (Scalar.ofToken tag s).bind Scalar.toJson
  | .sequence tag items =>
    if hasOwnTag tag then none else (itemsToJson items).map .list
  | .mapping tag pairs =>
    if hasOwnTag tag then none else (pairsToJson pairs).map .record

def itemsToJson : List Value → Option (List Json)
  | [] => some []
  | item :: rest => do
    let first ← item.toJson
    let others ← itemsToJson rest
    return first :: others

def pairsToJson : List (Value × Value) → Option (List (String × Json))
  | [] => some []
  | (key, value) :: rest => do
    let name ← keyText key
    let value ← value.toJson
    let others ← pairsToJson rest
    return (name, value) :: others

end

def memberKey : Value → Option String
  | .scalar tag s =>
    match Scalar.ofToken tag s with
    | some (.text name) => some name
    | some (.integer n) =>
      if s.text.toList.head? = some '-' then none
      else if n = 0 then some "placeholder"
      else if n = 1 then some "append"
      else none
    | _ => none
  | _ => none

mutual

def toMember : Value → Option Json
  | .scalar tag s =>
    match Scalar.ofToken tag s with
    | some .notFinite => none
    | some found => found.toJson
    | none => none
  | .sequence tag items =>
    if hasOwnTag tag then none else (itemsToMember items).map .list
  | .mapping tag pairs =>
    if hasOwnTag tag then none else (pairsToMember pairs).map .record

def itemsToMember : List Value → Option (List Json)
  | [] => some []
  | item :: rest => do
    let first ← item.toMember
    let others ← itemsToMember rest
    return first :: others

def pairsToMember : List (Value × Value) → Option (List (String × Json))
  | [] => some []
  | (key, value) :: rest => do
    let name ← memberKey key
    let value ← value.toMember
    let others ← pairsToMember rest
    return (name, value) :: others

end

def toOptional (read : Value → Option Json) (v : Value) : Option Json :=
  let given := (read v).bind fun found => match found with
    | .null => none
    | found => some found
  match v with
  | .scalar none s =>
    if s.plain && (s.text = "" || Scalar.isNull s.text) then some .null else given
  | .scalar (some tag) s =>
    if s.plain && tag = Scalar.standardTag "null" then
      if Scalar.isNull s.text then some .null else none
    else given
  | _ => given

def toList (read : Value → Option Json) (v : Value) : Option Json :=
  match v with
  | .sequence _ items => (items.mapM read).map .list
  | v => if v.isBlank then some (.list []) else none

def toDirective : Value → Option Json
  | .mapping _ pairs => (pairsToJson pairs).map .record
  | v => if v.isBlank then some (.record []) else none

mutual

def toStep : Value → Option Json
  | .mapping _ pairs => (stepFields pairs).map .record
  | v => if v.isBlank then some (.record []) else none

def stepFields : List (Value × Value) → Option (List (String × Json))
  | [] => some []
  | (key, value) :: rest => do
    let name ← keyText key
    let written ←
      if name = "url" || name = "link" then toOptional toMember value
      else if name = "execif" then toOptional (toList (toList toDirective)) value
      else if name = "actions" || name = "checks" then toList toDirective value
      else if name = "scenario" then
        match value with
        | .sequence _ items => (stepItems items).map .list
        | other => toOptional (fun v => if v.isBlank then some (.list []) else none) other
      else some .null
    let others ← stepFields rest
    return (name, written) :: others

def stepItems : List Value → Option (List Json)
  | [] => some []
  | item :: rest => do
    let first ← toStep item
    let others ← stepItems rest
    return first :: others

end

def toScenario : Option Value → Option Json
  | none => some (.list [])
  | some (.sequence _ items) => (stepItems items).map .list
  | some v => if v.isBlank then some (.list []) else none

def mappingFields : List (Value × Value) → Option (List (String × Json))
  | [] => some []
  | (key, value) :: rest => do
    let name ← keyText key
    let value ← value.toMember
    let others ← mappingFields rest
    return (name, value) :: others

def toMapping : Option Value → Option Json
  | none => some (.record [])
  | some (.mapping _ pairs) => (mappingFields pairs).map .record
  | some v => if v.isBlank then some (.record []) else none

def textPairs : List (Value × Value) → Option (Keyed String)
  | [] => some []
  | (key, value) :: rest => do
    let name ← keyText key
    let text ← keyText value
    let others ← textPairs rest
    return (name, text) :: others

end Value

end PageCheck.Yaml

namespace PageCheck

def Scenario.ofYaml [Readers] (text : String) : Except Failure Scenario :=
  let reason := Readers.scenario .yaml text
  match (Yaml.Value.ofText text).bind Yaml.Value.toScenario with
  | none => .error (.unreadable .yaml reason)
  | some document => Scenario.ofJson .yaml reason document

def Mapping.ofYaml (text : String) : Option Mapping :=
  ((Yaml.Value.ofText text).bind Yaml.Value.toMapping).bind Mapping.ofJson

def Locator.ofYaml (text : String) : Option Locator :=
  match Yaml.Value.ofText text with
  | some (some (.mapping _ pairs)) => (Yaml.Value.textPairs pairs).bind Locator.ofTexts
  | _ => none

end PageCheck
