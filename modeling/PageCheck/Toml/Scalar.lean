import PageCheck.Decimal.Binary64
import PageCheck.Text.Digit
import PageCheck.Text.Find
import PageCheck.Toml.Table

/-!
Numbers, dates and times. Each reader takes the longest beginning of the text that it understands
and returns what follows it. No integer exceeds 63 bits and a sign, and no number is too large to
be finite.
-/
namespace PageCheck.Toml

open Text (isAsciiDigit)

def readDigits (length : Nat) (cs : List Char) : Option (Nat × List Char) :=
  let digits := cs.take length
  if digits.length = length ∧ digits.all isAsciiDigit then
    (Text.natural? 10 digits).map (·, cs.drop length)
  else none

def readPair (least greatest : Nat) (cs : List Char) : Option (Nat × List Char) :=
  match readDigits 2 cs with
  | some (n, rest) => if least ≤ n ∧ n ≤ greatest then some (n, rest) else none
  | none => none

def isLeapYear (year : Nat) : Bool := year % 4 = 0 && (year % 100 ≠ 0 || year % 400 = 0)

def monthLength (year month : Nat) : Nat :=
  if month = 2 then if isLeapYear year then 29 else 28
  else if month ∈ [4, 6, 9, 11] then 30
  else 31

def afterDate? (cs : List Char) : Option (List Char) := do
  let (year, rest) ← readDigits 4 cs
  let (month, rest) ← readPair 1 12 (← Text.after? ['-'] rest)
  let (_, rest) ← readPair 1 (monthLength year month) (← Text.after? ['-'] rest)
  return rest

def afterTime? (cs : List Char) : Option (List Char) := do
  let (_, rest) ← readPair 0 23 cs
  let (_, rest) ← readPair 0 59 (← Text.after? [':'] rest)
  let (_, rest) ← readPair 0 60 (← Text.after? [':'] rest)
  match rest with
  | '.' :: fraction =>
    if fraction.head?.any isAsciiDigit then return fraction.dropWhile isAsciiDigit else return rest
  | _ => return rest

def afterZone? : List Char → Option (List Char)
  | [] => none
  | sign :: rest =>
    if sign ∈ ['Z', 'z'] then some rest
    else if sign ∈ ['+', '-'] then do
      let (_, rest) ← readPair 0 23 rest
      let (_, rest) ← readPair 0 59 (← Text.after? [':'] rest)
      return rest
    else none

def afterMoment? (cs : List Char) : Option (List Char) :=
  match afterDate? cs with
  | none => afterTime? cs
  | some (mark :: rest) =>
    if mark ∈ ['T', 't', ' '] then
      match afterTime? rest with
      | some rest => some ((afterZone? rest).getD rest)
      | none => some (mark :: rest)
    else some (mark :: rest)
  | some [] => some []

def takeDigits (base : Nat) : List Char → List Char × List Char
  | [] => ([], [])
  | [c] => if (Text.digitValue? base c).isSome then ([c], []) else ([], [c])
  | c :: '_' :: d :: rest =>
    if (Text.digitValue? base c).isSome then
      if (Text.digitValue? base d).isSome then
        let (digits, rest) := takeDigits base (d :: rest)
        (c :: digits, rest)
      else ([c], '_' :: d :: rest)
    else ([], c :: '_' :: d :: rest)
  | c :: rest =>
    if (Text.digitValue? base c).isSome then
      let (digits, rest) := takeDigits base rest
      (c :: digits, rest)
    else ([], c :: rest)

def baseMarks : List (Char × Nat) := [('x', 16), ('o', 8), ('b', 2)]

def maxInteger : Nat := 0x7fffffffffffffff

def readBased (base : Nat) (cs : List Char) : Option (Value × List Char) :=
  let (digits, rest) := takeDigits base cs
  match Text.natural? base digits with
  | some n => if n ≤ maxInteger then some (.integer n, rest) else none
  | none => none

def takeDecimal (cs : List Char) : List Char × List Char :=
  match cs with
  | '0' :: rest => (['0'], rest)
  | _ => takeDigits 10 cs

def readFraction : List Char → Option (List Char × List Char)
  | '.' :: rest =>
    match takeDigits 10 rest with
    | ([], _) => none
    | taken => some taken
  | cs => some ([], cs)

def readExponent : List Char → Option (Option Int × List Char)
  | [] => some (none, [])
  | mark :: rest =>
    if mark ∈ ['e', 'E'] then
      let (down, rest) := match rest with
        | '+' :: rest => (false, rest)
        | '-' :: rest => (true, rest)
        | _ => (false, rest)
      let (digits, rest) := takeDigits 10 rest
      (Text.natural? 10 digits).map fun n => (some (if down then -(n : Int) else n), rest)
    else some (none, mark :: rest)

def takeSign : List Char → Bool × List Char
  | '-' :: rest => (true, rest)
  | '+' :: rest => (false, rest)
  | cs => (false, cs)

def readDecimal (cs : List Char) : Option (Value × List Char) := do
  let (negative, unsigned) := takeSign cs
  let (digits, rest) := takeDecimal unsigned
  let whole ← Text.natural? 10 digits
  let (fraction, rest) ← readFraction rest
  let (exponent, rest) ← readExponent rest
  if fraction = [] ∧ exponent = none then
    let greatest := if negative then maxInteger + 1 else maxInteger
    if whole ≤ greatest then some (.integer (if negative then -(whole : Int) else whole), rest)
    else none
  else
    let all ← Text.natural? 10 (digits ++ fraction)
    let shifted := exponent.getD 0 - fraction.length
    if !negative ∧ Decimal.Binary64.ofDecimal false all shifted = none then none
    else some (.real (cs.take (cs.length - rest.length)), rest)

def readNotFinite (cs : List Char) : Option (Value × List Char) :=
  let rest := (takeSign cs).2
  let after := (Text.after? ['i', 'n', 'f'] rest).orElse fun _ => Text.after? ['n', 'a', 'n'] rest
  after.map fun rest => (.real (cs.take (cs.length - rest.length)), rest)

def readNumeric (cs : List Char) : Option (Value × List Char) :=
  match afterMoment? cs with
  | some rest => some (.moment (cs.take (cs.length - rest.length)), rest)
  | none =>
    match cs with
    | '0' :: mark :: rest =>
      match baseMarks.lookup mark with
      | some base => readBased base rest
      | none => readDecimal cs
    | _ => (readDecimal cs).orElse fun _ => readNotFinite cs

end PageCheck.Toml
