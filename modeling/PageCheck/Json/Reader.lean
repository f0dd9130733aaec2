import PageCheck.Json.Basic
import PageCheck.Text.Digit
import PageCheck.Text.Find

/-!
Reading document text. `Json.read` accepts one value with white space around it, of at most
`Json.depthLimit` nested containers. Each reader takes the text and returns a value and what
follows it; the first number of the mutual readers bounds the calls and is computed from the text.
-/
namespace PageCheck

open Decimal (Binary64)

namespace Json

def depthLimit : Nat := 127

def isSpace (c : Char) : Bool := c = ' ' || c = '\n' || c = '\t' || c = '\r'

def skipSpace (cs : List Char) : List Char := cs.dropWhile isSpace

def takeDigits (total : Nat) : List Char → Nat × List Char
  | [] => (total, [])
  | c :: rest =>
    match Text.digitValue? 10 c with
    | some d => if total * 10 + d ≤ maxNatural then takeDigits (total * 10 + d) rest
                else (total, c :: rest)
    | none => (total, c :: rest)

def powerOfTen (n : Nat) : Binary64 := (Binary64.ofDecimal false 1 n).getD (.zero false)

/-- `x / 10 ^ n`: beyond 308 the power is divided off in steps of 308. -/
def divideByPower (x : Binary64) : (steps n : Nat) → Option Binary64
  | 0, _ => some x
  | steps + 1, n =>
    if n ≤ 308 then x.div (powerOfTen n)
    else if x.isZero then some x
    else (x.div (powerOfTen 308)).bind fun y => divideByPower y steps (n - 308)

/-- The number with these leading digits and this power of ten, by one rounding of the digits and
one of the scaling; `none` beyond the largest finite number. -/
def scaled (negative : Bool) (digits : Nat) (exponent : Int) : Option Binary64 := do
  let x ← Binary64.ofQuotient negative digits 1
  if 0 ≤ exponent then
    if exponent ≤ 308 then x.mul (powerOfTen exponent.toNat)
    else if x.isZero then some x
    else none
  else divideByPower x (exponent.natAbs / 308 + 1) exponent.natAbs

def maxExponent : Nat := 0x7fffffff

def readExponent (negative : Bool) (digits : Nat) (start : Int) (cs : List Char) :
    Option (Number × List Char) :=
  let (down, cs) := match cs with
    | '+' :: rest => (false, rest)
    | '-' :: rest => (true, rest)
    | _ => (false, cs)
  let written := cs.takeWhile Text.isAsciiDigit
  let rest := cs.dropWhile Text.isAsciiDigit
  match Text.natural? 10 written with
  | none => none
  | some e =>
    if maxExponent < e then
      if digits ≠ 0 ∧ !down then none
      else (Binary64.ofQuotient negative 0 1).map fun x => (.real x, rest)
    else
      let exponent : Int := if down then start - e else start + e
      (scaled negative digits exponent).map fun x => (.real x, rest)

def readScaled (negative : Bool) (digits : Nat) (exponent : Int) (cs : List Char) :
    Option (Number × List Char) :=
  match cs with
  | 'e' :: rest => readExponent negative digits exponent rest
  | 'E' :: rest => readExponent negative digits exponent rest
  | _ => (scaled negative digits exponent).map fun x => (.real x, cs)

def readFraction (negative : Bool) (digits : Nat) (exponent : Int) (cs : List Char) :
    Option (Number × List Char) :=
  let (digits', rest) := takeDigits digits cs
  let count := cs.length - rest.length
  if count = 0 ∧ !(cs.head?.any Text.isAsciiDigit) then none
  else readScaled negative digits' (exponent - count) (rest.dropWhile Text.isAsciiDigit)

def integerOrReal (negative : Bool) (n : Nat) : Option Number :=
  if !negative then some (.integer n)
  else if n = 0 ∨ 0x8000000000000000 < n then (Binary64.ofQuotient true n 1).map .real
  else some (.integer (-n))

def readUnsigned (negative : Bool) (cs : List Char) : Option (Number × List Char) :=
  match cs with
  | [] => none
  | c :: rest =>
    if !Text.isAsciiDigit c then none
    else if c = '0' ∧ rest.head?.any Text.isAsciiDigit then none
    else
      let (digits, rest) := takeDigits 0 cs
      let extra := rest.takeWhile Text.isAsciiDigit
      let rest := rest.dropWhile Text.isAsciiDigit
      match rest with
      | '.' :: rest => readFraction negative digits extra.length rest
      | 'e' :: rest => readExponent negative digits extra.length rest
      | 'E' :: rest => readExponent negative digits extra.length rest
      | _ =>
        if extra.isEmpty then (integerOrReal negative digits).map (·, rest)
        else (scaled negative digits extra.length).map fun x => (.real x, rest)

def readNumber : List Char → Option (Number × List Char)
  | '-' :: rest => readUnsigned true rest
  | cs => readUnsigned false cs

def readHex4 : List Char → Option (Nat × List Char)
  | a :: b :: c :: d :: rest => (Text.natural? 16 [a, b, c, d]).map (·, rest)
  | _ => none

def readUnicodeEscape (cs : List Char) : Option (Char × List Char) := do
  let (first, rest) ← readHex4 cs
  if 0xd800 ≤ first ∧ first ≤ 0xdbff then
    let rest ← Text.after? ['\\', 'u'] rest
    let (second, rest) ← readHex4 rest
    if 0xdc00 ≤ second ∧ second ≤ 0xdfff then
      some (Char.ofNat (0x10000 + (first - 0xd800) * 0x400 + (second - 0xdc00)), rest)
    else none
  else if 0xdc00 ≤ first ∧ first ≤ 0xdfff then none
  else some (Char.ofNat first, rest)

def readEscape : List Char → Option (Char × List Char)
  | '\x22' :: rest => some ('\x22', rest)
  | '\\' :: rest => some ('\\', rest)
  | '/' :: rest => some ('/', rest)
  | 'b' :: rest => some ('\x08', rest)
  | 'f' :: rest => some ('\x0c', rest)
  | 'n' :: rest => some ('\n', rest)
  | 'r' :: rest => some ('\r', rest)
  | 't' :: rest => some ('\t', rest)
  | 'u' :: rest => readUnicodeEscape rest
  | _ => none

def readStringTail : (fuel : Nat) → (done : List Char) → List Char → Option (String × List Char)
  | 0, _, _ => none
  | _, _, [] => none
  | fuel + 1, done, c :: rest =>
    if c = '\x22' then some (String.ofList done.reverse, rest)
    else if c = '\\' then
      (readEscape rest).bind fun (c, rest) => readStringTail fuel (c :: done) rest
    else if c.toNat < 0x20 then none
    else readStringTail fuel (c :: done) rest

def readString (fuel : Nat) : List Char → Option (String × List Char)
  | '\x22' :: rest => readStringTail fuel [] rest
  | _ => none

mutual

def readValue : (fuel depth : Nat) → List Char → Option (Json × List Char)
  | 0, _, _ => none
  | fuel + 1, depth, cs =>
    match skipSpace cs with
    | [] => none
    | c :: rest =>
      if c = '[' then
        match depth with
        | 0 => none
        | depth + 1 =>
          match skipSpace rest with
          | ']' :: rest => some (.list [], rest)
          | _ => (readItems fuel depth rest).map fun (items, rest) => (.list items, rest)
      else if c = '\x7b' then
        match depth with
        | 0 => none
        | depth + 1 =>
          match skipSpace rest with
          | '\x7d' :: rest => some (.record [], rest)
          | _ => (readFields fuel depth rest).map fun (fields, rest) => (.record fields, rest)
      else if c = '\x22' then (readString fuel (c :: rest)).map fun (s, rest) => (.text s, rest)
      else if c = 'n' then (Text.after? ['u', 'l', 'l'] rest).map (.null, ·)
      else if c = 't' then (Text.after? ['r', 'u', 'e'] rest).map (.bool true, ·)
      else if c = 'f' then (Text.after? ['a', 'l', 's', 'e'] rest).map (.bool false, ·)
      else (readNumber (c :: rest)).map fun (n, rest) => (.number n, rest)

def readItems : (fuel depth : Nat) → List Char → Option (List Json × List Char)
  | 0, _, _ => none
  | fuel + 1, depth, cs => do
    let (item, rest) ← readValue fuel depth cs
    match skipSpace rest with
    | ',' :: rest =>
      let (items, rest) ← readItems fuel depth rest
      some (item :: items, rest)
    | ']' :: rest => some ([item], rest)
    | _ => none

def readFields : (fuel depth : Nat) → List Char → Option (List (String × Json) × List Char)
  | 0, _, _ => none
  | fuel + 1, depth, cs => do
    let (name, rest) ← readString fuel (skipSpace cs)
    let rest ← match skipSpace rest with
      | ':' :: rest => some rest
      | _ => none
    let (value, rest) ← readValue fuel depth rest
    match skipSpace rest with
    | ',' :: rest =>
      let (fields, rest) ← readFields fuel depth rest
      some ((name, value) :: fields, rest)
    | '\x7d' :: rest => some ([(name, value)], rest)
    | _ => none

end

def read (text : String) : Option Json :=
  let cs := text.toList
  match readValue (2 * cs.length + 2) depthLimit cs with
  | some (value, rest) => if (skipSpace rest).isEmpty then some value else none
  | none => none

end Json

end PageCheck
