import TabTools.Number.Binary64

/-!
# Shortest decimal text

A double is written with the fewest digits that still lie nearer to it than to any other double.
The reals that round to `m · 2 ^ q` form an interval around it (`Reach`), closed exactly when `m` is
even. The largest power of ten with a multiple inside that interval gives the fewest digits; of the
multiples inside, the one nearest to the double is taken, the even one on a tie (`shortest`).

The notation is a separate choice (`Notation64`): which decimal exponents are written positionally,
and how the exponent is written otherwise.
-/

namespace TabTools

/-- The interval of a double, its ends and the double itself over one denominator. -/
structure Reach where
  low : Nat
  value : Nat
  high : Nat
  den : Nat
  closed : Bool

namespace Magnitude

/-- The reals that round to `x`. Below a power of two the neighbour is only half as far away. -/
def reach (x : Magnitude) : Reach :=
  let below := if x.mantissa = leastFull && x.exponent != leastExponent then 1 else 2
  let up := (x.exponent - 2).toNat
  let down := (2 - x.exponent).toNat
  { low := (4 * x.mantissa - below) * Nat.pow 2 up
    value := 4 * x.mantissa * Nat.pow 2 up
    high := (4 * x.mantissa + 2) * Nat.pow 2 up
    den := Nat.pow 2 down
    closed := x.mantissa % 2 == 0 }

end Magnitude

namespace Reach

/-- A decimal `digits · 10 ^ power` over the denominator of the interval: the two numbers to
compare are `digits · (times r power)` and `bound · (tenth power)`. -/
def times (r : Reach) (power : Int) : Nat := r.den * Nat.pow 10 power.toNat

def tenth (power : Int) : Nat := Nat.pow 10 (-power).toNat

def holds (r : Reach) (power : Int) (digits : Nat) : Bool :=
  let x := digits * r.times power
  if r.closed then r.low * tenth power ≤ x && x ≤ r.high * tenth power
  else r.low * tenth power < x && x < r.high * tenth power

/-- The multiple of `10 ^ power` inside the interval that is nearest to the double. -/
def candidate (r : Reach) (power : Int) : Option Nat :=
  let target := r.value * tenth power
  let unit := r.times power
  let below := target / unit
  match r.holds power below, r.holds power (below + 1) with
  | false, false => none
  | true, false => some below
  | false, true => some (below + 1)
  | true, true =>
    let rest := target % unit
    if 2 * rest < unit || (2 * rest == unit && below % 2 == 0) then some below else some (below + 1)

end Reach

/-- The powers of ten to try, from the largest down. -/
def decimalPowers : List Int :=
  (List.range 660).map fun (i : Nat) => 310 - (i : Int)

/-- The fewest digits that denote the magnitude, with the power of ten of the last digit. -/
def Magnitude.shortest (x : Magnitude) : Nat × Int :=
  let r := x.reach
  (decimalPowers.findSome? fun power => (r.candidate power).map fun d => (d, power)).getD (0, 0)

/-- How a decimal is laid out. Decimal exponents from `least` up to, not including, `bound` are
written positionally. -/
structure Notation64 where
  least : Int
  bound : Int

namespace Notation64

/-- Positional text of `digits` with decimal exponent `exponent`; a whole number keeps `.0`. -/
def positional (digits : List Char) (exponent : Int) : List Char :=
  if exponent < 0 then ['0', '.'] ++ List.replicate ((-exponent).toNat - 1) '0' ++ digits
  else
    let whole := exponent.toNat + 1
    let padded := digits ++ List.replicate (whole - digits.length) '0'
    let rest := padded.drop whole
    padded.take whole ++ ['.'] ++ (if rest.isEmpty then ['0'] else rest)

/-- Text with an exponent that always shows its sign. -/
def scientific (digits : List Char) (exponent : Int) : List Char :=
  let rest := digits.drop 1
  digits.take 1 ++ (if rest.isEmpty then [] else '.' :: rest) ++
    ['e', if exponent < 0 then '-' else '+'] ++ Nat.toDigits 10 exponent.natAbs

def write (format : Notation64) (x : Binary64) : List Char :=
  let sign := if x.negative then ['-'] else []
  if x.magnitude.mantissa = 0 then sign ++ ['0', '.', '0']
  else
    let (number, power) := x.magnitude.shortest
    let digits := (Nat.toDigits 10 number).reverse.dropWhile (· == '0') |>.reverse
    let exponent := power + (Nat.toDigits 10 number).length - 1
    if format.least ≤ exponent && exponent < format.bound then
      sign ++ positional digits exponent
    else sign ++ scientific digits exponent

end Notation64

end TabTools
