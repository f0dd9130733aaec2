import PageCheck.Json.Basic
import PageCheck.Text.Digit
import PageCheck.Text.Find
import PageCheck.Yaml.Value

/-!
What scalars stand for. A plain scalar is null, a truth value, an integer, a real number or a text,
the first of these that its text fits; a tag may demand one of them. Numbers with superfluous zeros
in front are texts.
-/
namespace PageCheck.Yaml

open Decimal (Binary64)

inductive Scalar where
  | null
  | bool (value : Bool)
  | integer (value : Int)
  | real (value : Binary64)
  | notFinite
  | text (value : String)
  deriving DecidableEq, Repr, Inhabited

namespace Scalar

def isNull (text : String) : Bool := text ∈ ["null", "Null", "NULL", "~"]

def bool? (text : String) : Option Bool :=
  if text ∈ ["true", "True", "TRUE"] then some true
  else if text ∈ ["false", "False", "FALSE"] then some false
  else none

def splitSign : List Char → Bool × List Char
  | '-' :: rest => (true, rest)
  | '+' :: rest => (false, rest)
  | rest => (false, rest)

def isPadded (digits : List Char) : Bool :=
  1 < digits.length && digits.head? = some '0' && digits.all Text.isAsciiDigit

def bases : List (List Char × Nat) := [(['0', 'x'], 16), (['0', 'o'], 8), (['0', 'b'], 2)]

def natural? (digits : List Char) : Option Nat :=
  match bases.findSome? fun base => (Text.after? base.1 digits).bind (Text.natural? base.2) with
  | some n => some n
  | none => if isPadded digits then none else Text.natural? 10 digits

def maxMagnitude : Nat := 0xffffffffffffffffffffffffffffffff

def integer? (text : String) : Option Int :=
  let (negative, digits) := splitSign text.toList
  (natural? digits).bind fun n =>
    if negative then if n ≤ maxMagnitude / 2 + 1 then some (-n) else none
    else if n ≤ maxMagnitude then some n else none

def mantissa? (cs : List Char) : Option (Nat × Nat) :=
  match Text.cut (· = '.') cs with
  | (whole, []) => (Text.natural? 10 whole).map (·, 0)
  | (whole, _ :: fraction) => (Text.natural? 10 (whole ++ fraction)).map (·, fraction.length)

def exponent? (cs : List Char) : Option Int :=
  let (negative, digits) := splitSign cs
  (Text.natural? 10 digits).map fun (n : Nat) => if negative then -(n : Int) else n

def real? (text : String) : Option Binary64 := do
  let (negative, unsigned) := splitSign text.toList
  let (front, back) := Text.cut (fun c => c = 'e' || c = 'E') unsigned
  let (digits, places) ← mantissa? front
  let exponent ← match back with
    | [] => some 0
    | _ :: cs => exponent? cs
  Binary64.ofDecimal negative digits (exponent - places)

def isNotFinite (text : String) : Bool :=
  let unsigned := String.ofList (splitSign text.toList).2
  unsigned ∈ [".inf", ".Inf", ".INF"] || text ∈ [".nan", ".NaN", ".NAN"]

def float? (text : String) : Option Scalar :=
  if isNotFinite text then some .notFinite else (real? text).map .real

def ofPlain (text : String) : Scalar :=
  if text = "" || isNull text then .null
  else match bool? text with
    | some value => .bool value
    | none =>
      match integer? text with
      | some value => .integer value
      | none =>
        if isPadded (splitSign text.toList).2 then .text text
        else (float? text).getD (.text text)

def standardTag (name : String) : String := "tag:yaml.org,2002:" ++ name

def ofToken (tag : Option String) (s : ScalarToken) : Option Scalar :=
  match tag with
  | none => some (if s.plain then ofPlain s.text else .text s.text)
  | some tag =>
    if tag = standardTag "bool" then (bool? s.text).map .bool
    else if tag = standardTag "int" then (integer? s.text).map .integer
    else if tag = standardTag "float" then float? s.text
    else if tag = standardTag "null" then if isNull s.text then some .null else none
    else if tag.toList.head? = some '!' then none
    else some (.text s.text)

end Scalar

end PageCheck.Yaml
