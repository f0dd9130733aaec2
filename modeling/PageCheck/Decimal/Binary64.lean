import PageCheck.Decimal.Power

/-!
Finite numbers in the 64-bit binary floating-point format, with rounding done in exact natural
arithmetic. A number is its sign and its magnitude, which is the eleven exponent bits and fifty-two
fraction bits read as one natural number; the magnitude of infinity is not reached. The absolute
value is `significand * 2 ^ scale`.
-/
namespace PageCheck.Decimal

def infinity : Nat := 2047 * twoPow 52

structure Binary64 where
  negative : Bool
  magnitude : Nat
  finite : magnitude < infinity
  deriving DecidableEq, Repr

namespace Binary64

def zero (negative : Bool) : Binary64 := { negative, magnitude := 0, finite := by decide }

instance : Inhabited Binary64 := ⟨zero false⟩

def minScale : Int := -1074

def exponentBits (x : Binary64) : Nat := x.magnitude / twoPow 52

def fractionBits (x : Binary64) : Nat := x.magnitude % twoPow 52

def significand (x : Binary64) : Nat :=
  if x.exponentBits = 0 then x.fractionBits else twoPow 52 + x.fractionBits

def scale (x : Binary64) : Int :=
  if x.exponentBits = 0 then minScale else (x.exponentBits : Int) - 1075

def isZero (x : Binary64) : Bool := x.significand == 0

def assemble (negative : Bool) (significand : Nat) (scale : Int) : Option Binary64 :=
  let magnitude :=
    if significand < twoPow 52 then significand
    else (scale + 1075).toNat * twoPow 52 + (significand - twoPow 52)
  if finite : magnitude < infinity then some { negative, magnitude, finite } else none

def roundDiv (num den : Nat) : Nat :=
  let quotient := num / den
  let rest := 2 * (num % den)
  if rest < den then quotient
  else if den < rest then quotient + 1
  else quotient + quotient % 2

def rescale (num den : Nat) (scale : Int) : Nat × Nat :=
  if 0 ≤ scale then (num, den * twoPow scale.toNat) else (num * twoPow (-scale).toNat, den)

def ofQuotient (negative : Bool) (num den : Nat) : Option Binary64 :=
  if num = 0 then some (zero negative)
  else
    let guess : Int := (num.log2 : Int) - (den.log2 : Int) - 52
    let guess := if guess < minScale then minScale else guess
    let first := rescale num den guess
    let scale := if first.1 / first.2 < twoPow 52 ∧ minScale < guess then guess - 1 else guess
    let exact := rescale num den scale
    let rounded := roundDiv exact.1 exact.2
    let carried := rounded = twoPow 53
    let significand := if carried then twoPow 52 else rounded
    let scale := if carried then scale + 1 else scale
    assemble negative significand scale

/-- The number nearest to `digits * 10 ^ exponent`; `none` beyond the largest finite number. Powers
that leave the format by themselves are not computed. -/
def ofDecimal (negative : Bool) (digits : Nat) (exponent : Int) : Option Binary64 :=
  let places : Int := (digits.log2 : Int) * 30103 / 100000 + 1
  if digits = 0 ∨ exponent + places < -400 then some (zero negative)
  else if 400 < exponent + places then none
  else if 0 ≤ exponent then ofQuotient negative (digits * tenPow exponent.toNat) 1
  else ofQuotient negative digits (tenPow (-exponent).toNat)

def quotient (x : Binary64) : Nat × Nat :=
  if 0 ≤ x.scale then (x.significand * twoPow x.scale.toNat, 1)
  else (x.significand, twoPow (-x.scale).toNat)

def mul (x y : Binary64) : Option Binary64 :=
  ofQuotient x.negative (x.quotient.1 * y.quotient.1) (x.quotient.2 * y.quotient.2)

def div (x y : Binary64) : Option Binary64 :=
  ofQuotient x.negative (x.quotient.1 * y.quotient.2) (x.quotient.2 * y.quotient.1)

end Binary64

end PageCheck.Decimal
