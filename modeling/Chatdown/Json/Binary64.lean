import Chatdown.Text

/-!
# Binary64 numbers

Magnitudes of double precision, as exact dyadic fractions: the nearest one to a fraction, the one
that a decimal is read as, and the shortest decimal that leads back to it.
-/

namespace Chatdown.Json

/-- The number `mantissa * 2 ^ exponent`, with a mantissa below `2 ^ 53` that is at least
`2 ^ 52` unless the exponent is the least. -/
structure Binary64 where
  mantissa : Nat
  exponent : Int
  deriving DecidableEq, Repr

namespace Binary64

/-- The bits of a full mantissa. -/
def precision : Nat := 53

def minExponent : Int := -1074

def maxExponent : Int := 971

def zero : Binary64 := ⟨0, minExponent⟩

def twoPow (e : Int) : Nat × Nat :=
  if 0 ≤ e then (Nat.pow 2 e.toNat, 1) else (1, Nat.pow 2 (-e).toNat)

def fraction (x : Binary64) : Nat × Nat :=
  (x.mantissa * (twoPow x.exponent).1, (twoPow x.exponent).2)

/-- The quotient of two numbers rounded to the nearest integer, halves to an even one. -/
def roundDiv (a b : Nat) : Nat :=
  let q := a / b
  let r := a % b
  if 2 * r < b || (2 * r = b && q % 2 = 0) then q else q + 1

/-- The exponent at which the mantissa of a positive fraction has its full number of bits. -/
def exponentOf (a b : Nat) : Int :=
  let guess : Int := (a.log2 : Int) - (b.log2 : Int) - ((precision : Int) - 1)
  let (p, q) := twoPow guess
  let e := if a * q < b * p * Nat.pow 2 (precision - 1) then guess - 1 else guess
  max e minExponent

/-- The number nearest to a fraction, if it is not too large. -/
def nearest? (a b : Nat) : Option Binary64 :=
  if a = 0 then some zero
  else
    let e := exponentOf a b
    let (p, q) := twoPow e
    let m := roundDiv (a * q) (b * p)
    let x : Binary64 :=
      if m = Nat.pow 2 precision then ⟨Nat.pow 2 (precision - 1), e + 1⟩ else ⟨m, e⟩
    if maxExponent < x.exponent then none else some x

/-- The greatest power of ten that is used as one factor. -/
def powerLimit : Nat := 308

/-- The number nearest to a power of ten. -/
def tenPow (n : Nat) : Binary64 := (nearest? (Nat.pow 10 n) 1).getD zero

/-- The product of two numbers, rounded. -/
def mul? (x y : Binary64) : Option Binary64 :=
  nearest? (x.fraction.1 * y.fraction.1) (x.fraction.2 * y.fraction.2)

/-- The quotient of two numbers, rounded. -/
def div (x y : Binary64) : Binary64 :=
  (nearest? (x.fraction.1 * y.fraction.2) (x.fraction.2 * y.fraction.1)).getD zero

/-- A number times a power of ten. Each factor is rounded on its own, and so is each step; powers
below the least are divided by in steps, of which `steps` are left. -/
def scale? (x : Binary64) (steps : Nat) (exponent : Int) : Option Binary64 :=
  if exponent.natAbs ≤ powerLimit then
    if 0 ≤ exponent then mul? x (tenPow exponent.natAbs) else some (div x (tenPow exponent.natAbs))
  else if x.mantissa = 0 then some x
  else if 0 ≤ exponent then none
  else
    match steps with
    | 0 => some zero
    | steps + 1 => scale? (div x (tenPow powerLimit)) steps (exponent + powerLimit)

/-- The number that a decimal is read as, if it is not too large. Three steps take any significand
of 64 bits to zero. -/
def ofDecimal? (significand : Nat) (exponent : Int) : Option Binary64 :=
  (nearest? significand 1).bind fun x => scale? x 3 exponent

/-- Tests whether a fraction rounds to a number. -/
def roundsTo (x : Binary64) (a b : Nat) : Bool := nearest? a b = some x

def decimalFraction (digits : Nat) (exponent : Int) : Nat × Nat :=
  if 0 ≤ exponent then (digits * Nat.pow 10 exponent.toNat, 1)
  else (digits, Nat.pow 10 (-exponent).toNat)

/-- The decimal nearest to a number among the multiples of a power of ten that round to it. -/
def onGrid? (x : Binary64) (exponent : Int) : Option (Nat × Int) :=
  let (a, b) := x.fraction
  let (p, q) := decimalFraction 1 exponent
  let low := a * q / (b * p)
  let fits (n : Nat) : Bool := 0 < n && roundsTo x (n * p) q
  let lowIsNearer := 2 * (a * q % (b * p)) < b * p || 2 * (a * q % (b * p)) = b * p && low % 2 = 0
  if fits low && (lowIsNearer || !fits (low + 1)) then some (low, exponent)
  else if fits (low + 1) then some (low + 1, exponent)
  else none

/-- The first of the multiples of ever smaller powers of ten that round to a number. -/
def shortestFrom (x : Binary64) (exponent : Int) : (steps : Nat) → Nat × Int
  | 0 => (x.mantissa, 0)
  | steps + 1 =>
    match onGrid? x exponent with
    | some decimal => decimal
    | none => shortestFrom x (exponent - 1) steps

/-- The exponent of ten of the first digit of a fraction, at least. -/
def leadingExponent (a b : Nat) : Int :=
  if b ≤ a then ((Nat.toDigits 10 (a / b)).length : Int)
  else -((Nat.toDigits 10 (b / a)).length : Int) + 1

/-- The digits and the exponent of the shortest decimal that rounds to a number that is not zero;
of the shortest ones, the nearest. -/
def shortest (x : Binary64) : Nat × Int :=
  let (a, b) := x.fraction
  shortestFrom x (leadingExponent a b) 20

end Binary64

end Chatdown.Json
