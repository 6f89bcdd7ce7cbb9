import RecordLoom.Number.Reading

/-!
Integers as setting texts.  The plain form is an integer without needless zeros.  Any other text is
first cleaned of the white space around it, a plus sign, zeros in front and behind a minus sign, a
fraction of zeros and single underscores.
-/

namespace RecordLoom.Settings

open RecordLoom.Number

/-- An integer in its plain form: zero, or digits of which the first is no zero, after an optional
minus sign.  The sign counts against the limit, and a number that is too long is told before
anything wrong behind it. -/
def readPlainInteger (cs : List Char) : IntReading :=
  let (negative, body) := match cs with
    | '-' :: rest => (true, rest)
    | _ => (false, cs)
  match body with
  | [] => .notNumeric
  | '0' :: rest => if rest.isEmpty then .value 0 else .notNumeric
  | _ =>
      let run := body.takeWhile Char.isDigit
      let size := if negative then run.length + 1 else run.length
      if digitLimit < size then .tooLong
      else if run.length < body.length then .notNumeric
      else .value (signed negative (natOfDigits (run.map fun c => c.toNat - '0'.toNat)))

def dropPlus : List Char → Option (List Char)
  | '+' :: '-' :: _ => none
  | '+' :: rest => some rest
  | cs => some cs

def isFiller (c : Char) : Bool := c = '0' || c = '_'

/-- The text without zeros in front and underscores after the first of them.  One zero stays where
nothing but a fraction follows. -/
def dropZeros : List Char → Option (List Char)
  | '0' :: rest =>
      let filler := '0' :: rest.takeWhile isFiller
      match rest.dropWhile isFiller with
      | c :: after =>
          if c.isDigit || c = '-' then some (c :: after)
          else if c = '.' && filler.getLast? = some '0' then some ('0' :: '.' :: after)
          else none
      | [] => if filler.getLast? = some '0' then some ['0'] else none
  | c :: rest => if c.isDigit || c = '-' then some (c :: rest) else none
  | [] => none

def dropFraction (cs : List Char) : List Char :=
  match cs.dropWhile (· != '.') with
  | '.' :: '0' :: rest => if rest.all (· = '0') then cs.takeWhile (· != '.') else cs
  | _ => cs

/-- The text without underscores.  None may stand at an end or beside another. -/
def dropUnderscores (cs : List Char) : Option (List Char) :=
  if (cs.splitOn '_').any List.isEmpty then none else some (cs.filter (· != '_'))

def dropSignedZeros : List Char → List Char
  | '-' :: '0' :: rest =>
      match rest.dropWhile (· = '0') with
      | [] => ['-', '0']
      | digits => '-' :: digits
  | cs => cs

def cleanInteger (cs : List Char) : Option (List Char) := do
  let signed ← dropPlus (Text.dropEnds isNumberBlank cs)
  let significant ← dropZeros signed
  (dropUnderscores (dropFraction significant)).map dropSignedZeros

/-- Reads an integer; only the plain form can be too long. -/
def readIntegerText (s : String) : IntReading :=
  match readPlainInteger s.toList with
  | .notNumeric =>
      match (cleanInteger s.toList).map readPlainInteger with
      | some (.value n) => .value n
      | _ => .notNumeric
  | reading => reading

end RecordLoom.Settings
