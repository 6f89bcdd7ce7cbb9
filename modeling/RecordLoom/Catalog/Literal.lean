import RecordLoom.Failure
import RecordLoom.Json.Reader
import RecordLoom.Number.Reading
import RecordLoom.Number.Shortest
import RecordLoom.Text.Case
import RecordLoom.Text.Quoted
import RecordLoom.Text.Replace
import RecordLoom.Text.Trim

/-!
Column defaults.  A default is SQL text; constants become values and everything else stays an
expression.  Integers are read from texts, so none has more than `digitLimit` digits.
-/

namespace RecordLoom.Catalog

open RecordLoom.Number
open RecordLoom.Text

inductive Literal where
  | null
  | integer (value : Int)
  | real (value : Double)
  | text (value : String)
  | blob (bytes : List UInt8)
  | boolean (value : Bool)
  /-- A default that is computed, such as `CURRENT_TIMESTAMP`. -/
  | expression (sql : String)
  deriving DecidableEq, Repr

namespace Literal

def isNull : Literal → Bool
  | null => true
  | _ => false

def kindName : Literal → String
  | null => "null"
  | integer _ => "integer"
  | real _ => "real"
  | text _ => "text"
  | blob _ => "blob"
  | boolean _ => "boolean"
  | expression _ => "expression"

def isIntegerText (cs : List Char) : Bool :=
  let (_, body) := takeSign cs
  !body.isEmpty && body.all isDecimalDigit

def isExponentText : List Char → Bool
  | [] => true
  | e :: rest => (e = 'e' || e = 'E') && isIntegerText rest

def isRealText (cs : List Char) : Bool :=
  let (_, body) := takeSign cs
  let whole := body.takeWhile isDecimalDigit
  match body.dropWhile isDecimalDigit with
  | '.' :: rest =>
      let fraction := rest.takeWhile isDecimalDigit
      !(whole.isEmpty && fraction.isEmpty) && isExponentText (rest.dropWhile isDecimalDigit)
  | rest => !whole.isEmpty && isExponentText rest

def betweenQuotes? (cs : List Char) : Option (List Char) :=
  match cs with
  | '\'' :: rest => if rest.getLast? == some '\'' then some rest.dropLast else none
  | _ => none

def blobDigits? (cs : List Char) : Option (List Nat) :=
  match cs with
  | x :: rest =>
      if x = 'x' || x = 'X' then (betweenQuotes? rest).bind (·.mapM Json.hexValue?) else none
  | [] => none

def pairDigits : List Nat → Except ConversionFault (List UInt8)
  | [] => .ok []
  | [_] => .error .oddHexDigits
  | high :: low :: rest => (pairDigits rest).map (UInt8.ofNat (16 * high + low) :: ·)

def readInteger (s : String) : Except ConversionFault Literal :=
  match readInt s with
  | .value n => .ok (integer n)
  | .tooLong | .notNumeric => .error .tooManyDigits

def parse (text : String) : Except ConversionFault Literal :=
  let body := trim text
  let word := upper body
  if word == "NULL" then .ok null
  else if word == "TRUE" then .ok (boolean true)
  else if word == "FALSE" then .ok (boolean false)
  else if isIntegerText body.toList then readInteger body
  else if isRealText body.toList then .ok (real ((readDouble? body).getD .nan))
  else
    match betweenQuotes? body.toList with
    | some inner => .ok (.text (replace "''" "'" (.ofList inner)))
    | none =>
        match blobDigits? body.toList with
        | some digits => (pairDigits digits).map blob
        | none => .ok (expression body)

def parse? (text : Option String) : Except ConversionFault (Option Literal) :=
  text.elim (.ok none) fun text => (parse text).map some

def display : Literal → String
  | null => "None"
  | integer value => toString value
  | real value => value.text
  | text value => value
  | blob bytes => quotedBytes bytes
  | boolean value => if value then "True" else "False"
  | expression sql => sql

end Literal

end RecordLoom.Catalog
