/-!
Sets of code points as strided ranges.  The tables of this folder hold the sets of the Unicode
character database, version 14 unless they say otherwise.
-/

namespace RecordLoom.Text

/-- Every `step`-th code point from `first` to `last`. -/
structure Stride where
  first : Nat
  last : Nat
  step : Nat
  deriving DecidableEq, Repr

def Stride.contains (s : Stride) (code : Nat) : Bool :=
  s.first ≤ code && code ≤ s.last && (code - s.first) % s.step == 0

def covers (strides : List Stride) (c : Char) : Bool :=
  strides.any (·.contains c.toNat)

end RecordLoom.Text
