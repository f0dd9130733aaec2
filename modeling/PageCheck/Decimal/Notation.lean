import PageCheck.Decimal.Shortest
import PageCheck.Text.Digit

/-!
The written form of a number: which numerals are positional, and how an exponent is written.
-/
namespace PageCheck.Decimal

structure Style where
  /-- Positional notation is used while the point stands after at most this many places. -/
  pointAtMost : Int
  /-- Positional notation is used while the point stands after more than this many places. -/
  pointAbove : Int
  wholeEnding : List Char
  exponentPlus : List Char

def Style.document : Style :=
  { pointAtMost := 16, pointAbove := -5, wholeEnding := ['.', '0'], exponentPlus := ['+'] }

def significantDigits (digits : List Char) : List Char :=
  match (digits.reverse.dropWhile (· = '0')).reverse with
  | [] => ['0']
  | kept => kept

def Style.place (style : Style) (digits : List Char) (point : Int) : List Char :=
  let count : Int := digits.length
  if count ≤ point ∧ point ≤ style.pointAtMost then
    digits ++ List.replicate (point - count).toNat '0' ++ style.wholeEnding
  else if 0 < point ∧ point ≤ style.pointAtMost then
    digits.take point.toNat ++ '.' :: digits.drop point.toNat
  else if style.pointAbove < point ∧ point ≤ 0 then
    '0' :: '.' :: List.replicate (-point).toNat '0' ++ digits
  else
    let exponent := point - 1
    let mantissa := match digits with
      | [] => []
      | [d] => [d]
      | d :: rest => d :: '.' :: rest
    let sign := if exponent < 0 then ['-'] else style.exponentPlus
    mantissa ++ 'e' :: sign ++ Text.decimal exponent.natAbs

def Style.write (style : Style) (x : Binary64) : List Char :=
  let sign := if x.negative then ['-'] else []
  if x.isZero then sign ++ '0' :: style.wholeEnding
  else
    let numeral := shortest x
    let digits := Text.decimal numeral.digits
    let point : Int := digits.length + numeral.exponent
    sign ++ style.place (significantDigits digits) point

end PageCheck.Decimal
