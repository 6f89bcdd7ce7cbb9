import RecordLoom.Number.Power

/-!
Double-precision numbers by their bits: sign, eleven exponent bits and fifty-two fraction bits.
All arithmetic on them is exact arithmetic on natural numbers followed by one rounding.
-/

namespace RecordLoom.Number

structure Double where
  bits : UInt64
  deriving DecidableEq, Repr

namespace Double

def isNegative (x : Double) : Bool := x.bits.toNat / twoTo 63 == 1

def magnitude (x : Double) : Nat := x.bits.toNat % twoTo 63

def infinityMagnitude : Nat := 0x7ff * twoTo 52

def isFinite (x : Double) : Bool := x.magnitude < infinityMagnitude

def isInfinite (x : Double) : Bool := x.magnitude == infinityMagnitude

def isNaN (x : Double) : Bool := infinityMagnitude < x.magnitude

def ofMagnitude (negative : Bool) (magnitude : Nat) : Double :=
  ⟨UInt64.ofNat (magnitude + if negative then twoTo 63 else 0)⟩

def infinity (negative : Bool) : Double := ofMagnitude negative infinityMagnitude

def nan : Double := ofMagnitude false (infinityMagnitude + twoTo 51)

/-- A finite number is `significand * 2 ^ (exponent - 1074)`. -/
def significand (x : Double) : Nat :=
  let fraction := x.magnitude % twoTo 52
  if x.magnitude < twoTo 52 then fraction else fraction + twoTo 52

def exponent (x : Double) : Nat := x.magnitude / twoTo 52 - 1

def isZero (x : Double) : Bool := x.magnitude == 0

/-- Nearest integer to `numerator / denominator`, a half going to the even neighbour. -/
def roundToEven (numerator denominator : Nat) : Nat :=
  let whole := numerator / denominator
  let rest := 2 * (numerator % denominator)
  if denominator < rest || (rest == denominator && whole % 2 == 1) then whole + 1 else whole

/-- The exponent at which `numerator / denominator` has a significand of 53 bits, or zero. -/
def scaleOf (numerator denominator : Nat) : Nat :=
  let scaled := numerator * twoTo 1074
  let guess := Nat.log2 scaled - Nat.log2 denominator - 53
  if twoTo 53 * denominator * twoTo guess ≤ scaled then guess + 1 else guess

/-- The double nearest to a quotient of natural numbers; too large a quotient gives infinity. -/
def ofQuotient (negative : Bool) (numerator denominator : Nat) : Double :=
  let scale := scaleOf numerator denominator
  let rounded := roundToEven (numerator * twoTo 1074) (denominator * twoTo scale)
  ofMagnitude negative (min (scale * twoTo 52 + rounded) infinityMagnitude)

def ofInt? (n : Int) : Option Double :=
  let x := ofQuotient (n < 0) n.natAbs 1
  if x.isFinite then some x else none

def toInt? (x : Double) : Option Int :=
  let scaled := x.significand * twoTo x.exponent
  if x.isFinite && scaled % twoTo 1074 == 0 then
    let n : Int := (scaled / twoTo 1074 : Nat)
    some (if x.isNegative then -n else n)
  else none

end Double

end RecordLoom.Number
