import RecordLoom.Number.Double
import RecordLoom.Text.Blank
import RecordLoom.Text.Digit
import RecordLoom.Text.Trim

/-!
Numbers read from text.  White space around a number, a sign, single underscores between digits and
the decimal digits of every script are accepted.
-/

namespace RecordLoom.Number

open RecordLoom.Text

/-- White space around a number; the four ASCII separators do not count. -/
def isNumberBlank (c : Char) : Bool := isBlank c && !(0x1c ≤ c.toNat && c.toNat ≤ 0x1f)

/-- Integers are read from and written as at most this many digits. -/
def digitLimit : Nat := 4300

def isLong (n : Int) : Bool := digitLimit < (Nat.toDigits 10 n.natAbs).length

/--
The longest start made of digits with single underscores between them, and the rest.  `afterDigit`
tells whether a digit stands before the text.
-/
def takeGroups (afterDigit : Bool) : List Char → List Nat × List Char
  | [] => ([], [])
  | '_' :: [] => ([], ['_'])
  | '_' :: c :: rest =>
      match afterDigit, digitValue? c with
      | true, some value => (takeGroups true rest).map (value :: ·) id
      | _, _ => ([], '_' :: c :: rest)
  | c :: rest =>
      match digitValue? c with
      | some value => (takeGroups true rest).map (value :: ·) id
      | none => ([], c :: rest)

def takeGrouped (cs : List Char) : List Nat × List Char := takeGroups false cs

def natOfDigits (digits : List Nat) : Nat := digits.foldl (fun n d => 10 * n + d) 0

def takeSign : List Char → Bool × List Char
  | '-' :: rest => (true, rest)
  | '+' :: rest => (false, rest)
  | cs => (false, cs)

inductive IntReading where
  | value (n : Int)
  | tooLong
  | notNumeric
  deriving DecidableEq, Repr

def signed (negative : Bool) (n : Nat) : Int := if negative then -n else n

def readInt (s : String) : IntReading :=
  let (negative, body) := takeSign (dropEnds isNumberBlank s.toList)
  match takeGrouped body with
  | ([], _) => .notNumeric
  | (digits, []) =>
      if digitLimit < digits.length then .tooLong else .value (signed negative (natOfDigits digits))
  | (_, _ :: _) => .notNumeric

def readInt? (s : String) : Option Int :=
  match readInt s with
  | .value n => some n
  | _ => none

/--
The double nearest to `digits * 10 ^ exponent`.  Numbers far outside the range of doubles are
decided by their leading exponent, so that no power of ten grows with the exponent written.
-/
def doubleOfScientific (negative : Bool) (digits : List Nat) (exponent : Int) : Double :=
  let significant := digits.dropWhile (· == 0)
  let leading := significant.length + exponent
  let n := natOfDigits significant
  if significant.isEmpty || leading < -400 then .ofMagnitude negative 0
  else if 400 < leading then .infinity negative
  else if 0 ≤ exponent then .ofQuotient negative (n * tenTo exponent.toNat) 1
  else .ofQuotient negative n (tenTo (-exponent).toNat)

def readExponent? : List Char → Option Int
  | [] => some 0
  | e :: rest =>
      if e = 'e' || e = 'E' then
        let (negative, body) := takeSign rest
        match takeGrouped body with
        | ([], _) => none
        | (digits, []) => some (signed negative (natOfDigits digits))
        | (_, _ :: _) => none
      else none

def fractionPart : List Char → List Nat × List Char
  | '.' :: rest => takeGrouped rest
  | cs => ([], cs)

def readDecimal? (negative : Bool) (body : List Char) : Option Double := do
  let (whole, afterWhole) := takeGrouped body
  let (fraction, afterFraction) := fractionPart afterWhole
  if whole.isEmpty && fraction.isEmpty then failure
  let exponent ← readExponent? afterFraction
  pure (doubleOfScientific negative (whole ++ fraction) (exponent - fraction.length))

def readDouble? (s : String) : Option Double :=
  let (negative, body) := takeSign (dropEnds isNumberBlank s.toList)
  let word := String.ofList (body.map Char.toLower)
  if word == "inf" || word == "infinity" then some (.infinity negative)
  else if word == "nan" then some .nan
  else readDecimal? negative body

end RecordLoom.Number
