import RecordLoom.Number.Double

/-!
The shortest decimal of a double: the fewest digits that round back to it, and of those the
nearest.  The search runs over decimal grids in exact arithmetic.
-/

namespace RecordLoom.Number

/-- The decimal `digits * 10 ^ exponent`. -/
structure Decimal where
  digits : Nat
  exponent : Int
  deriving DecidableEq, Repr

def rescale (numerator denominator : Nat) (exponent : Int) : Nat × Nat :=
  if 0 ≤ exponent then (numerator, denominator * tenTo exponent.toNat)
  else (numerator * tenTo (-exponent).toNat, denominator)

/-- The greatest `e` in a window with `10 ^ e ≤ numerator / denominator`. -/
def leadingExponent (numerator denominator : Nat) : Int :=
  let rec search : Nat → Int → Int
    | 0, e => e
    | fuel + 1, e =>
        let (n, d) := rescale numerator denominator e
        if d ≤ n then e else search fuel (e - 1)
  search 700 309

/--
The reals that round to a positive double, as numerators over one denominator: the number itself and
both ends, with the ends included when the significand is even.
-/
structure RoundingInterval where
  low : Nat
  value : Nat
  high : Nat
  denominator : Nat
  closed : Bool

def Double.interval (x : Double) : RoundingInterval :=
  let m := x.significand
  let unit := twoTo x.exponent
  -- below a power of two the neighbours are half as far apart
  let below := if m == twoTo 52 && 0 < x.exponent then 1 else 2
  { low := (4 * m - below) * unit, value := 4 * m * unit, high := (4 * m + 2) * unit,
    denominator := twoTo 1076, closed := m % 2 == 0 }

def RoundingInterval.contains (r : RoundingInterval) (digits : Nat) (exponent : Int) : Bool :=
  let (n, d) := if 0 ≤ exponent then (digits * tenTo exponent.toNat * r.denominator, 1)
    else (digits * r.denominator, tenTo (-exponent).toNat)
  if r.closed then r.low * d ≤ n && n ≤ r.high * d else r.low * d < n && n < r.high * d

/-- The neighbour of the value on the grid `10 ^ exponent` that rounds back to it, if one does. -/
def RoundingInterval.onGrid? (r : RoundingInterval) (exponent : Int) : Option Nat :=
  let (n, d) := rescale r.value r.denominator exponent
  let below := n / d
  let nearest := Double.roundToEven n d
  let other := if nearest == below then below + 1 else below
  if r.contains nearest exponent then some nearest
  else if r.contains other exponent then some other
  else none

/-- The coarsest of the grids below `top` that holds a neighbour which rounds back. -/
def RoundingInterval.search (r : RoundingInterval) : Nat → Int → Decimal
  | 0, exponent => ⟨r.value / r.denominator, exponent⟩
  | fuel + 1, exponent =>
      match r.onGrid? exponent with
      | some digits => ⟨digits, exponent⟩
      | none => r.search fuel (exponent - 1)

/-- The shortest decimal of the magnitude of a finite double; zero is `0 * 10 ^ 0`. -/
def Double.shortest (x : Double) : Decimal :=
  if x.isZero then ⟨0, 0⟩
  else
    let r := x.interval
    r.search 17 (leadingExponent r.value r.denominator)

structure DecimalLayout where
  /-- Numbers below `10 ^ leastPositional` have an exponent. -/
  leastPositional : Int
  /-- Numbers from `10 ^ mostPositional` on have an exponent. -/
  mostPositional : Int
  exponentDigits : Nat

def DecimalLayout.standard : DecimalLayout := ⟨-4, 16, 2⟩

def padZeros (width : Nat) (digits : List Char) : List Char :=
  List.replicate (width - digits.length) '0' ++ digits

def dropTrailingZeros (digits : List Char) : List Char :=
  (digits.reverse.dropWhile (· = '0')).reverse

/-- Lays out non-empty digits whose point stands after `point` of them. -/
def DecimalLayout.place (layout : DecimalLayout) (digits : List Char) (point : Int) : List Char :=
  if point - 1 < layout.leastPositional || layout.mostPositional < point then
    let fraction := if digits.tail.isEmpty then [] else '.' :: digits.tail
    let power := point - 1
    let sign := if power < 0 then '-' else '+'
    digits.take 1 ++ fraction ++
      'e' :: sign :: padZeros layout.exponentDigits (Nat.toDigits 10 power.natAbs)
  else if point ≤ 0 then
    '0' :: '.' :: (List.replicate (-point).toNat '0' ++ digits)
  else
    let whole := digits.take point.toNat
    let fraction := digits.drop point.toNat
    whole ++ List.replicate (point.toNat - whole.length) '0' ++
      '.' :: (if fraction.isEmpty then ['0'] else fraction)

def Decimal.layOut (layout : DecimalLayout) (d : Decimal) : List Char :=
  let written := Nat.toDigits 10 d.digits
  match dropTrailingZeros written with
  | [] => ['0', '.', '0']
  | digits => layout.place digits (written.length + d.exponent)

def Double.text (x : Double) : String :=
  let sign := if x.isNegative then ['-'] else []
  if x.isNaN then "nan"
  else if x.isInfinite then .ofList (sign ++ ['i', 'n', 'f'])
  else .ofList (sign ++ x.shortest.layOut .standard)

end RecordLoom.Number
