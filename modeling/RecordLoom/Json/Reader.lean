import RecordLoom.Json.Basic
import RecordLoom.Number.Reading

/-!
Reader for JSON text.  Besides the standard grammar it takes the numbers `NaN`, `Infinity` and
`-Infinity`.  Every value consumes input, so the length of the text bounds the reading.
-/

namespace RecordLoom.Json

open RecordLoom.Number

def isJsonBlank (c : Char) : Bool := c = ' ' || c = '\t' || c = '\n' || c = '\r'

def skipBlanks (cs : List Char) : List Char := cs.dropWhile isJsonBlank

def hexValue? (c : Char) : Option Nat :=
  if '0' ≤ c && c ≤ '9' then some (c.toNat - 48)
  else if 'a' ≤ c && c ≤ 'f' then some (c.toNat - 87)
  else if 'A' ≤ c && c ≤ 'F' then some (c.toNat - 55)
  else none

def unitOf? (a b c d : Char) : Option Nat := do
  let (a, b, c, d) := (← hexValue? a, ← hexValue? b, ← hexValue? c, ← hexValue? d)
  pure (((a * 16 + b) * 16 + c) * 16 + d)

structure Letters where
  chars : List Char
  /-- The first unit of a surrogate pair whose second unit may follow. -/
  pending : Option Nat

namespace Letters

def empty : Letters := ⟨[], none⟩

/-- A surrogate unit without its partner becomes the replacement character. -/
def settled (l : Letters) : List Char :=
  if l.pending.isSome then Char.ofNat 0xfffd :: l.chars else l.chars

def add (l : Letters) (c : Char) : Letters := ⟨c :: l.settled, none⟩

def addUnit (l : Letters) (unit : Nat) : Letters :=
  if 0xd800 ≤ unit && unit < 0xdc00 then ⟨l.settled, some unit⟩
  else if 0xdc00 ≤ unit && unit < 0xe000 then
    match l.pending with
    | some first =>
        ⟨Char.ofNat (0x10000 + (first - 0xd800) * 1024 + (unit - 0xdc00)) :: l.chars, none⟩
    | none => l.add (Char.ofNat 0xfffd)
  else l.add (Char.ofNat unit)

def text (l : Letters) : String := .ofList l.settled.reverse

end Letters

def simpleEscape? : Char → Option Char
  | '"' => some '"'
  | '\\' => some '\\'
  | '/' => some '/'
  | 'b' => some '\x08'
  | 'f' => some '\x0c'
  | 'n' => some '\n'
  | 'r' => some '\r'
  | 't' => some '\t'
  | _ => none

def readString? (l : Letters) : List Char → Option (String × List Char)
  | '"' :: rest => some (l.text, rest)
  | '\\' :: 'u' :: a :: b :: c :: d :: rest => do
      let unit ← unitOf? a b c d
      readString? (l.addUnit unit) rest
  | '\\' :: e :: rest => do
      let c ← simpleEscape? e
      readString? (l.add c) rest
  | c :: rest => if c.toNat < 32 then none else readString? (l.add c) rest
  | [] => none

def takeAscii : List Char → List Char × List Char :=
  fun cs => (cs.takeWhile Char.isDigit, cs.dropWhile Char.isDigit)

def takeWhole? (cs : List Char) : Option (List Char × List Char) :=
  match takeAscii cs with
  | ([], _) => none
  | ('0' :: _, _) => some (['0'], cs.drop 1)
  | found => some found

def takeFraction (cs : List Char) : List Char × List Char :=
  match cs with
  | '.' :: rest =>
      match takeAscii rest with
      | ([], _) => ([], cs)
      | found => found
  | _ => ([], cs)

def takeExponent (cs : List Char) : Option Int × List Char :=
  match cs with
  | e :: rest =>
      if e = 'e' || e = 'E' then
        let (negative, body) := takeSign rest
        match takeAscii body with
        | ([], _) => (none, cs)
        | (digits, after) =>
            (some (signed negative (natOfDigits (digits.map fun c => c.toNat - 48))), after)
      else (none, cs)
  | [] => (none, cs)

def readNumber? (negative : Bool) (cs : List Char) : Option (Json × List Char) := do
  let (whole, afterWhole) ← takeWhole? cs
  let (fraction, afterFraction) := takeFraction afterWhole
  let (exponent, rest) := takeExponent afterFraction
  let values := fun (digits : List Char) => digits.map fun c => c.toNat - 48
  if fraction.isEmpty && exponent.isNone then
    if digitLimit < whole.length then none
    else some (.int (signed negative (natOfDigits (values whole))), rest)
  else
    let power := exponent.getD 0 - fraction.length
    some (.real (doubleOfScientific negative (values (whole ++ fraction)) power), rest)

def words : List (List Char × Json) :=
  [("null".toList, .null), ("true".toList, .bool true), ("false".toList, .bool false),
   ("NaN".toList, .real .nan), ("Infinity".toList, .real (.infinity false)),
   ("-Infinity".toList, .real (.infinity true))]

def readWord? (cs : List Char) : Option (Json × List Char) :=
  (words.find? fun (word, _) => word.isPrefixOf cs).map fun (word, value) =>
    (value, cs.drop word.length)

mutual

def readValue? : Nat → List Char → Option (Json × List Char)
  | 0, _ => none
  | fuel + 1, cs =>
      match skipBlanks cs with
      | '"' :: rest => (readString? .empty rest).map fun (s, after) => (.str s, after)
      | '[' :: rest =>
          match skipBlanks rest with
          | ']' :: after => some (.arr [], after)
          | body => (readItems? fuel body).map fun (items, after) => (.arr items, after)
      | '\x7b' :: rest =>
          match skipBlanks rest with
          | '\x7d' :: after => some (.obj [], after)
          | body => (readMembers? fuel body).map fun (ms, after) => (.obj (ofMembers ms), after)
      | body =>
          match readWord? body with
          | some found => some found
          | none =>
              match body with
              | '-' :: rest => readNumber? true rest
              | _ => readNumber? false body

def readItems? : Nat → List Char → Option (List Json × List Char)
  | 0, _ => none
  | fuel + 1, cs => do
      let (item, after) ← readValue? fuel cs
      match skipBlanks after with
      | ',' :: rest =>
          let (items, tail) ← readItems? fuel rest
          pure (item :: items, tail)
      | ']' :: rest => pure ([item], rest)
      | _ => none

def readMembers? : Nat → List Char → Option (List (String × Json) × List Char)
  | 0, _ => none
  | fuel + 1, cs =>
      match skipBlanks cs with
      | '"' :: rest => do
          let (key, afterKey) ← readString? .empty rest
          match skipBlanks afterKey with
          | ':' :: afterColon =>
              let (value, after) ← readValue? fuel afterColon
              match skipBlanks after with
              | ',' :: rest =>
                  let (members, tail) ← readMembers? fuel rest
                  pure ((key, value) :: members, tail)
              | '\x7d' :: rest => pure ([(key, value)], rest)
              | _ => none
          | _ => none
      | _ => none

end

def parse? (text : String) : Option Json :=
  let cs := text.toList
  match readValue? (cs.length + 1) cs with
  | some (value, rest) => if (skipBlanks rest).isEmpty then some value else none
  | none => none

end RecordLoom.Json
