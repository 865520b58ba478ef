/-!
# Double-precision numbers

A finite double is a sign and a magnitude `mantissa · 2 ^ exponent`. Magnitudes are kept in one
form: the mantissa fits in 53 bits, and it uses all of them unless the exponent is the least one.

All arithmetic is exact on natural numbers and rounds once at the end, to the nearest magnitude
and to the even mantissa when two are equally near (`nearest`). A result too large for a double is
`none`.

**Reading a decimal.** A decimal `significand · 10 ^ exponent` is read in steps that each round:
the significand becomes the nearest double, and is then multiplied or divided by the nearest
double of a power of ten, at most `10 ^ 308` at a time (`ofDecimal`).
-/

namespace TabTools

/-- A magnitude `mantissa · 2 ^ exponent`. -/
structure Magnitude where
  mantissa : Nat
  exponent : Int
deriving DecidableEq, Repr

/-- A finite double. Zero has a sign too. -/
structure Binary64 where
  negative : Bool
  magnitude : Magnitude
deriving DecidableEq, Repr

namespace Magnitude

/-- The exponent of the smallest doubles. -/
def leastExponent : Int := -1074

/-- The exponent of the largest doubles. -/
def greatestExponent : Int := 971

/-- The least mantissa that uses all 53 bits. -/
def leastFull : Nat := 0x10000000000000

def zero : Magnitude := ⟨0, leastExponent⟩

/-- The quotient rounded to the nearest natural number, a half to the even one. -/
def divNearest (num den : Nat) : Nat :=
  let quotient := num / den
  let rest := num % den
  if den < 2 * rest || (2 * rest == den && quotient % 2 == 1) then quotient + 1 else quotient

/-- `num / den` in units of `2 ^ exponent`, as a fraction. -/
def inUnits (num den : Nat) (exponent : Int) : Nat × Nat :=
  if 0 ≤ exponent then (num, den * Nat.pow 2 exponent.toNat)
  else (num * Nat.pow 2 (-exponent).toNat, den)

/-- The magnitude nearest to `num / den`, or `none` when that is beyond the largest double. -/
def nearest (num den : Nat) : Option Magnitude :=
  let guess := max leastExponent ((num.log2 : Int) - den.log2 - 53)
  let (n, d) := inUnits num den guess
  let exponent := if 2 * leastFull ≤ n / d then guess + 1 else guess
  let (n, d) := inUnits num den exponent
  let mantissa := divNearest n d
  let result : Magnitude :=
    if mantissa = 2 * leastFull then ⟨leastFull, exponent + 1⟩ else ⟨mantissa, exponent⟩
  if greatestExponent < result.exponent then none else some result

/-- The magnitude as a fraction of natural numbers. -/
def fraction (x : Magnitude) : Nat × Nat :=
  if 0 ≤ x.exponent then (x.mantissa * Nat.pow 2 x.exponent.toNat, 1)
  else (x.mantissa, Nat.pow 2 (-x.exponent).toNat)

def mul (x y : Magnitude) : Option Magnitude :=
  nearest (x.fraction.1 * y.fraction.1) (x.fraction.2 * y.fraction.2)

/-- The quotient by a magnitude that is not zero. -/
def div (x y : Magnitude) : Option Magnitude :=
  nearest (x.fraction.1 * y.fraction.2) (x.fraction.2 * y.fraction.1)

/-- The magnitude nearest to a power of ten. -/
def powerOfTen (n : Nat) : Option Magnitude :=
  nearest (Nat.pow 10 n) 1

/-- The largest power of ten that a double reaches. -/
def greatestPower : Nat := 308

/-- Divides by `10 ^ greatestPower` the given number of times, or until nothing is left. -/
def descend : (strides : Nat) → Magnitude → Option Magnitude
  | 0, x => some x
  | n + 1, x =>
    if x.mantissa = 0 then some x
    else ((powerOfTen greatestPower).bind x.div).bind (descend n)

/-- Moves the decimal point of `x` up by `places`. Only zero can move beyond `greatestPower`. -/
def scaleUp (x : Magnitude) (places : Nat) : Option Magnitude :=
  if places ≤ greatestPower then (powerOfTen places).bind x.mul
  else if x.mantissa = 0 then some x
  else none

/-- Moves the decimal point of `x` down by `places`: whole strides first, then the rest. -/
def scaleDown (x : Magnitude) (places : Nat) : Option Magnitude :=
  let strides := (places - 1) / greatestPower
  (descend strides x).bind fun y =>
    (powerOfTen (places - greatestPower * strides)).bind y.div

/-- Reads the decimal `significand · 10 ^ exponent`. -/
def ofDecimal (significand : Nat) (exponent : Int) : Option Magnitude :=
  (nearest significand 1).bind fun x =>
    if 0 ≤ exponent then x.scaleUp exponent.toNat else x.scaleDown (-exponent).toNat

end Magnitude

end TabTools
