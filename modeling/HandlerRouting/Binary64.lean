/-!
Binary floating point with 64 bits, on exact integers. A number is kept as its sign and the bit
pattern of its magnitude; patterns grow with the magnitude, so numbers compare as integers and no
rounding takes place after a number has been read.
-/

namespace HandlerRouting

structure Binary64 where
  negative : Bool
  magnitude : Nat
deriving DecidableEq, Repr

namespace Binary64

def zero : Binary64 := ⟨false, 0⟩

def one : Binary64 := ⟨false, 0x3ff0000000000000⟩

def infinitePattern : Nat := 0x7ff0000000000000

def undefined : Binary64 := ⟨false, infinitePattern + 0x8000000000000⟩

def isUndefined (x : Binary64) : Bool := infinitePattern < x.magnitude

def patternsPerField : Nat := 0x10000000000000

def place (x : Binary64) : Int := if x.negative then -x.magnitude else x.magnitude

def le (x y : Binary64) : Bool := x.place ≤ y.place

def bits (x : Binary64) : Nat := (if x.negative then 0x8000000000000000 else 0) + x.magnitude

def roundQuotient (numerator denominator : Nat) : Nat :=
  let quotient := numerator / denominator
  let twice := 2 * (numerator % denominator)
  if twice > denominator ∨ (twice = denominator ∧ quotient % 2 = 1) then quotient + 1 else quotient

def ratioLog (numerator denominator : Nat) : Int :=
  let guess : Int := numerator.log2 - denominator.log2
  let reaches := if guess < 0 then denominator ≤ numerator * Nat.pow 2 (-guess).toNat
    else denominator * Nat.pow 2 guess.toNat ≤ numerator
  if reaches then guess else guess - 1

def patternOfRatio (numerator denominator : Nat) : Nat :=
  let unit := max (ratioLog numerator denominator - 52) (-1074)
  let fraction :=
    if unit < 0 then roundQuotient (numerator * Nat.pow 2 (-unit).toNat) denominator
    else roundQuotient numerator (denominator * Nat.pow 2 unit.toNat)
  -- A fraction that rounds up to the next power of two carries into the exponent field.
  min ((unit + 1074).toNat * patternsPerField + fraction) infinitePattern

def patternOfDecimal (coefficient : Nat) (exponent : Int) : Nat :=
  if coefficient = 0 then 0
  -- Exponents far outside the range are settled without the power of ten.
  else if exponent > 310 then infinitePattern
  else if 0 ≤ exponent then patternOfRatio (coefficient * Nat.pow 10 exponent.toNat) 1
  else if exponent < -(330 + coefficient.log2 : Int) then 0
  else patternOfRatio coefficient (Nat.pow 10 (-exponent).toNat)

def parts (x : Binary64) : Nat × Int :=
  let field : Nat := x.magnitude / patternsPerField
  let fraction : Nat := x.magnitude % patternsPerField
  if field = 0 then (fraction, -1074) else (fraction + patternsPerField, (field : Int) - 1075)

def integer? (x : Binary64) : Option Int :=
  let (count, unit) := x.parts
  let size : Option Nat :=
    if 0 ≤ unit then some (count * Nat.pow 2 unit.toNat)
    else if count % Nat.pow 2 (-unit).toNat = 0 then some (count / Nat.pow 2 (-unit).toNat)
    else none
  size.map fun n => if x.negative then -(n : Int) else n

example : place ⟨true, 0⟩ = place zero := rfl

example : patternOfDecimal 1 0 = one.magnitude := by decide

/-- A tenth is no binary fraction; the pattern is the one next to it. -/
example : patternOfDecimal 1 (-1) = 0x3fb999999999999a := by decide +kernel

end Binary64

end HandlerRouting
