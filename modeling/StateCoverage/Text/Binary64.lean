import StateCoverage.Text.CodePoint

/-!
Binary floating point with 53 bits, in exact arithmetic: the number nearest to a decimal, and the
fewest digits that read back.
-/
namespace StateCoverage

/-- A nonnegative number that 64 bits can hold: `mantissa · 2 ^ exponent`, or infinity. -/
inductive Magnitude where
  | finite (mantissa : Nat) (exponent : Int)
  | infinite
deriving DecidableEq

inductive Binary64 where
  | number (negative : Bool) (magnitude : Magnitude)
  | notANumber
deriving DecidableEq

def twoTo (n : Nat) : Nat := Nat.pow 2 n

def tenTo (n : Nat) : Nat := Nat.pow 10 n

namespace Magnitude

/-- The quotient, rounded to the nearest natural number; a half goes to the even one. -/
def roundedQuotient (numerator denominator : Nat) : Nat :=
  let q := numerator / denominator
  let r := numerator % denominator
  if 2 * r < denominator then q
  else if denominator < 2 * r then q + 1
  else q + q % 2

def scaled (n : Nat) (e : Int) : Nat × Nat := (n * twoTo e.toNat, twoTo (-e).toNat)

/-- The number nearest to a positive fraction. The least exponent is -1074; 53 bits are kept. -/
def nearest (numerator denominator : Nat) : Magnitude :=
  let estimate : Int := (Nat.log2 numerator : Int) - Nat.log2 denominator - 52
  let fits (e : Int) : Bool :=
    let (n, d) := scaled numerator (-e)
    n < twoTo 53 * (d * denominator)
  let e := if fits (estimate - 1) then estimate - 1
    else if fits estimate then estimate else estimate + 1
  let e := max e (-1074)
  let (n, d) := scaled numerator (-e)
  let m := roundedQuotient n (d * denominator)
  let (m, e) := if m = twoTo 53 then (twoTo 52, e + 1) else (m, e)
  if 971 < e then infinite else if m = 0 then finite 0 0 else finite m e

def ofDecimal (digits : Nat) (power : Int) : Magnitude :=
  let size : Int := (Nat.toDigits 10 digits).length + power
  if digits = 0 ∨ size < -400 then finite 0 0
  else if 400 < size then infinite
  else nearest (digits * tenTo power.toNat) (tenTo (-power).toNat)

def fraction (mantissa : Nat) (exponent : Int) : Nat × Nat := scaled mantissa exponent

/-- The decimals of `count` digits next to a fraction below `10 ^ point`: the two neighbours on
the grid of step `10 ^ (point - count)`. -/
def neighbours (numerator denominator : Nat) (step : Int) : Nat × Nat :=
  let low := numerator * tenTo (-step).toNat / (denominator * tenTo step.toNat)
  (low, low + 1)

def nearer (n d a c b : Nat) : Bool :=
  let gap (x : Nat) : Nat := if x * d < n * b then n * b - x * d else x * d - n * b
  gap a < gap c || (gap a == gap c && a % 2 == 0)

/-- The fewest digits that read back, with the power of ten of the last. Tries `count` digits and
more, up to 17. -/
def shortestFrom (whole : Magnitude) (numerator denominator : Nat) (point : Int) (count : Nat) :
    Nat → Nat × Int
  | 0 => (numerator / denominator, 0)
  | tries + 1 =>
    let step := point - count
    let (low, high) := neighbours numerator denominator step
    let lowHits := low ≠ 0 && ofDecimal low step = whole
    let highHits := ofDecimal high step = whole
    if lowHits && highHits then
      let scale := tenTo (-step).toNat
      let unit := tenTo step.toNat
      if nearer (numerator * scale) (denominator * unit) low high 1 then (low, step)
      else (high, step)
    else if lowHits then (low, step)
    else if highHits then (high, step)
    else shortestFrom whole numerator denominator point (count + 1) tries

def decimalPoint (numerator denominator : Nat) : Int :=
  let estimate : Int := (Nat.toDigits 10 numerator).length - (Nat.toDigits 10 denominator).length
  let below (p : Int) : Bool := numerator * tenTo (-p).toNat < denominator * tenTo p.toNat
  if below estimate then estimate else estimate + 1

def dropZeros (digits : Nat) (power : Int) : Nat → Nat × Int
  | 0 => (digits, power)
  | tries + 1 =>
    if digits ≠ 0 ∧ digits % 10 = 0 then dropZeros (digits / 10) (power + 1) tries
    else (digits, power)

/-- The text of a magnitude: positional from 1e-4 up to 1e16, with an exponent of two digits at
least elsewhere; a whole number keeps `.0`. -/
def render : Magnitude → Text
  | infinite => text "inf"
  | finite 0 _ => text "0.0"
  | finite m e =>
    let (numerator, denominator) := fraction m e
    let point := decimalPoint numerator denominator
    let (found, power) := shortestFrom (finite m e) numerator denominator point 1 17
    let (digits, power) := dropZeros found power 20
    let ds := Nat.toDigits 10 digits
    let place : Int := ds.length + power
    let body : List Char :=
      if -4 < place ∧ place ≤ 16 then
        if place ≤ 0 then ['0', '.'] ++ List.replicate (-place).toNat '0' ++ ds
        else if ds.length ≤ place.toNat then
          ds ++ List.replicate (place.toNat - ds.length) '0' ++ ['.', '0']
        else ds.take place.toNat ++ ['.'] ++ ds.drop place.toNat
      else
        let shown := Nat.toDigits 10 (place - 1).natAbs
        ds.take 1 ++ (if ds.length = 1 then [] else '.' :: ds.drop 1)
          ++ ['e', if place < 1 then '-' else '+'] ++ List.replicate (2 - shown.length) '0' ++ shown
    body.map .scalar

end Magnitude

namespace Binary64

def ofDecimal (negative : Bool) (digits : Nat) (power : Int) : Binary64 :=
  .number negative (.ofDecimal digits power)

def isZero : Binary64 → Bool
  | number _ (.finite 0 _) => true
  | _ => false

/-- One, in lowest terms of 53 bits. -/
def oneMagnitude : Magnitude := .finite (twoTo 52) (-52)

def isOne (x : Binary64) : Bool := x = .number false oneMagnitude

def isMinusOne (x : Binary64) : Bool := x = .number true oneMagnitude

def negate : Binary64 → Binary64
  | number negative magnitude => number (!negative) magnitude
  | notANumber => notANumber

def render : Binary64 → Text
  | number negative magnitude => (if negative then text "-" else []) ++ magnitude.render
  | notANumber => text "nan"

end Binary64

end StateCoverage
