import HandlerRouting.Binary64

/-!
The shortest decimal of a binary number: the fewest digits that read back as the number, and of
those the nearest to it. All comparisons are between integers.
-/

namespace HandlerRouting.Binary64

def ratio (x : Binary64) : Nat × Nat :=
  let (count, unit) := x.parts
  if unit < 0 then (count, Nat.pow 2 (-unit).toNat) else (count * Nat.pow 2 unit.toNat, 1)

def reachesPower (numerator denominator : Nat) (exponent : Int) : Bool :=
  if exponent < 0 then denominator ≤ numerator * Nat.pow 10 (-exponent).toNat
  else denominator * Nat.pow 10 exponent.toNat ≤ numerator

def decimalLog (numerator denominator : Nat) : Int :=
  -- One off at most.
  let guess := ratioLog numerator denominator * 30103 / 100000
  if reachesPower numerator denominator (guess + 1) then guess + 1
  else if reachesPower numerator denominator guess then guess
  else guess - 1

def gridNeighbours (numerator denominator : Nat) (exponent : Int) : List Nat :=
  let (dividend, divisor) :=
    if exponent < 0 then (numerator * Nat.pow 10 (-exponent).toNat, denominator)
    else (numerator, denominator * Nat.pow 10 exponent.toNat)
  let low := dividend / divisor
  if roundQuotient dividend divisor = low then [low, low + 1] else [low + 1, low]

def shortestFrom (x : Binary64) (log : Int) : (remaining digits : Nat) → Nat × Int
  | 0, digits =>
    let exponent := log - digits
    ((gridNeighbours x.ratio.1 x.ratio.2 exponent).headD 0, exponent)
  | remaining + 1, digits =>
    let exponent := log - digits
    let neighbours := gridNeighbours x.ratio.1 x.ratio.2 exponent
    match neighbours.find? fun n => patternOfDecimal n exponent == x.magnitude with
    | some coefficient => (coefficient, exponent)
    | none => shortestFrom x log remaining (digits + 1)

/-- Coefficient and exponent of the shortest decimal. Seventeen digits are always enough. -/
def shortest (x : Binary64) : Nat × Int :=
  if x.magnitude = 0 then (0, 0)
  else shortestFrom x (decimalLog x.ratio.1 x.ratio.2) 16 0

example : shortest ⟨false, 0x3fb999999999999a⟩ = (1, -1) := by decide +kernel

example : shortest ⟨false, 1⟩ = (5, -324) := by decide +kernel

end HandlerRouting.Binary64
