/-!
Powers of the bases of binary and decimal numbers.
-/

namespace RecordLoom.Number

def twoTo (exponent : Nat) : Nat := Nat.pow 2 exponent

def tenTo (exponent : Nat) : Nat := Nat.pow 10 exponent

theorem twoTo_pos (exponent : Nat) : 0 < twoTo exponent := Nat.pow_pos (by decide)

end RecordLoom.Number
