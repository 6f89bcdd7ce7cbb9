import RecordLoom.Text.Stride

/-!
Decimal digits and the other characters with a numeric value.  The decimal digits (category Nd)
come in runs of ten, each from its zero to its nine.
-/

namespace RecordLoom.Text

def digitZeros : List Nat :=
  [48, 1632, 1776, 1984, 2406, 2534, 2662, 2790, 2918, 3046, 3174, 3302, 3430, 3558, 3664, 3792,
   3872, 4160, 4240, 6112, 6160, 6470, 6608, 6784, 6800, 6992, 7088, 7232, 7248, 42528, 43216,
   43264, 43472, 43504, 43600, 44016, 65296, 66720, 68912, 69734, 69872, 69942, 70096, 70384,
   70736, 70864, 71248, 71360, 71472, 71904, 72016, 72784, 73040, 73120, 92768, 92864, 93008,
   120782, 120792, 120802, 120812, 120822, 123200, 123632, 125264, 130032]

def digitValue? (c : Char) : Option Nat :=
  if c.toNat < 128 then
    if c.isDigit then some (c.toNat - 48) else none
  else
    (digitZeros.find? fun start => start ≤ c.toNat && c.toNat < start + 10).map (c.toNat - ·)

def isDecimalDigit (c : Char) : Bool := (digitValue? c).isSome

/-- Characters that stand for a digit without being decimal digits, such as superscripts. -/
def digitFormStrides : List Stride :=
  [⟨178, 179, 1⟩, ⟨185, 185, 1⟩, ⟨4969, 4977, 1⟩, ⟨6618, 6618, 1⟩, ⟨8304, 8304, 1⟩,
   ⟨8308, 8313, 1⟩, ⟨8320, 8329, 1⟩, ⟨9312, 9320, 1⟩, ⟨9332, 9340, 1⟩, ⟨9352, 9360, 1⟩,
   ⟨9450, 9450, 1⟩, ⟨9461, 9469, 1⟩, ⟨9471, 9471, 1⟩, ⟨10102, 10110, 1⟩, ⟨10112, 10120, 1⟩,
   ⟨10122, 10130, 1⟩, ⟨68160, 68163, 1⟩, ⟨69216, 69224, 1⟩, ⟨69714, 69722, 1⟩, ⟨127232, 127242, 1⟩]

def numericStrides : List Stride :=
  [⟨178, 179, 1⟩, ⟨185, 185, 1⟩, ⟨188, 190, 1⟩, ⟨2548, 2553, 1⟩, ⟨2930, 2935, 1⟩, ⟨3056, 3058, 1⟩,
   ⟨3192, 3198, 1⟩, ⟨3416, 3422, 1⟩, ⟨3440, 3448, 1⟩, ⟨3882, 3891, 1⟩, ⟨4969, 4988, 1⟩,
   ⟨5870, 5872, 1⟩, ⟨6128, 6137, 1⟩, ⟨6618, 6618, 1⟩, ⟨8304, 8304, 1⟩, ⟨8308, 8313, 1⟩,
   ⟨8320, 8329, 1⟩, ⟨8528, 8578, 1⟩, ⟨8581, 8585, 1⟩, ⟨9312, 9371, 1⟩, ⟨9450, 9471, 1⟩,
   ⟨10102, 10131, 1⟩, ⟨11517, 11517, 1⟩, ⟨12295, 12295, 1⟩, ⟨12321, 12329, 1⟩, ⟨12344, 12346, 1⟩,
   ⟨12690, 12693, 1⟩, ⟨12832, 12841, 1⟩, ⟨12872, 12879, 1⟩, ⟨12881, 12895, 1⟩, ⟨12928, 12937, 1⟩,
   ⟨12977, 12991, 1⟩, ⟨42726, 42735, 1⟩, ⟨43056, 43061, 1⟩, ⟨65799, 65843, 1⟩, ⟨65856, 65912, 1⟩,
   ⟨65930, 65931, 1⟩, ⟨66273, 66299, 1⟩, ⟨66336, 66339, 1⟩, ⟨66369, 66369, 1⟩, ⟨66378, 66378, 1⟩,
   ⟨66513, 66517, 1⟩, ⟨67672, 67679, 1⟩, ⟨67705, 67711, 1⟩, ⟨67751, 67759, 1⟩, ⟨67835, 67839, 1⟩,
   ⟨67862, 67867, 1⟩, ⟨68028, 68029, 1⟩, ⟨68032, 68047, 1⟩, ⟨68050, 68095, 1⟩, ⟨68160, 68168, 1⟩,
   ⟨68221, 68222, 1⟩, ⟨68253, 68255, 1⟩, ⟨68331, 68335, 1⟩, ⟨68440, 68447, 1⟩, ⟨68472, 68479, 1⟩,
   ⟨68521, 68527, 1⟩, ⟨68858, 68863, 1⟩, ⟨69216, 69246, 1⟩, ⟨69405, 69414, 1⟩, ⟨69457, 69460, 1⟩,
   ⟨69573, 69579, 1⟩, ⟨69714, 69733, 1⟩, ⟨70113, 70132, 1⟩, ⟨71482, 71483, 1⟩, ⟨71914, 71922, 1⟩,
   ⟨72794, 72812, 1⟩, ⟨73664, 73684, 1⟩, ⟨74752, 74862, 1⟩, ⟨93019, 93025, 1⟩, ⟨93824, 93846, 1⟩,
   ⟨119520, 119539, 1⟩, ⟨119648, 119672, 1⟩, ⟨125127, 125135, 1⟩, ⟨126065, 126123, 1⟩,
   ⟨126125, 126127, 1⟩, ⟨126129, 126132, 1⟩, ⟨126209, 126253, 1⟩, ⟨126255, 126269, 1⟩,
   ⟨127232, 127244, 1⟩]

def isDigitForm (c : Char) : Bool :=
  isDecimalDigit c || covers digitFormStrides c

end RecordLoom.Text
