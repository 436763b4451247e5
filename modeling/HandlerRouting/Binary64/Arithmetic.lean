import HandlerRouting.Binary64

/-!
Sums and products of floating-point numbers: the exact result first, as a whole number of units,
then the nearest number of the format.
-/

namespace HandlerRouting.Binary64

def isInfinite (x : Binary64) : Bool := x.magnitude = infinitePattern

def negate (x : Binary64) : Binary64 := { x with negative := !x.negative }

def patternOfUnits (count : Nat) (unit : Int) : Nat :=
  if count = 0 then 0
  else if 0 ≤ unit then patternOfRatio (count * Nat.pow 2 unit.toNat) 1
  else patternOfRatio count (Nat.pow 2 (-unit).toNat)

def ofNat? (n : Nat) : Option Binary64 :=
  let pattern := patternOfUnits n 0
  if pattern < infinitePattern then some ⟨false, pattern⟩ else none

def unitsOf (unit : Int) (x : Binary64) : Int :=
  let (count, own) := x.parts
  let size : Nat := count * Nat.pow 2 (own - unit).toNat
  if x.negative then -(size : Int) else size

def sum (x y : Binary64) : Binary64 :=
  if x.isUndefined || y.isUndefined then undefined
  else if x.isInfinite then
    if y.isInfinite && x.negative != y.negative then undefined else x
  else if y.isInfinite then y
  else
    let unit := min x.parts.2 y.parts.2
    let total := x.unitsOf unit + y.unitsOf unit
    ⟨if total = 0 then x.negative && y.negative else total < 0,
      patternOfUnits total.natAbs unit⟩

def product (x y : Binary64) : Binary64 :=
  let negative := x.negative != y.negative
  if x.isUndefined || y.isUndefined then undefined
  else if x.isInfinite || y.isInfinite then
    if x.magnitude = 0 || y.magnitude = 0 then undefined else ⟨negative, infinitePattern⟩
  else
    let (count, unit) := x.parts
    let (others, other) := y.parts
    ⟨negative, patternOfUnits (count * others) (unit + other)⟩

example : sum one one = ⟨false, 0x4000000000000000⟩ := by decide +kernel

/-- A tenth and two tenths are the number next to three tenths. -/
example :
    sum ⟨false, 0x3fb999999999999a⟩ ⟨false, 0x3fc999999999999a⟩ = ⟨false, 0x3fd3333333333334⟩ := by
  decide +kernel

example : product ⟨true, infinitePattern⟩ zero = undefined := by decide

end HandlerRouting.Binary64
