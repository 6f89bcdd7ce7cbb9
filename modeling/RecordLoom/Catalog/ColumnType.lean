import RecordLoom.Failure
import RecordLoom.Number.Reading
import RecordLoom.Text.Case
import RecordLoom.Text.Replace

/-!
Declared column types and their affinities.  Only the spellings listed here are recognised; any
other text is kept as a custom type, so that the author's own names stay visible.
-/

namespace RecordLoom.Catalog

open RecordLoom.Text

inductive ColumnType where
  | integer
  | real
  | text
  | blob
  | any
  | boolean
  | varchar (width : Option Nat)
  | date
  | datetime
  | timestamp
  | decimal
  | custom (name : String)
  deriving DecidableEq, Repr

namespace ColumnType

def keywords : List (String × ColumnType) :=
  [("INT", integer), ("INTEGER", integer), ("REAL", real), ("DOUBLE", real), ("TEXT", text),
   ("BLOB", blob), ("ANY", any), ("BOOL", boolean), ("BOOLEAN", boolean), ("DATE", date),
   ("DATETIME", datetime), ("TIMESTAMP", timestamp), ("DECIMAL", decimal),
   ("VARCHAR", varchar none)]

def after? (c : Char) : List Char → Option (List Char)
  | [] => none
  | d :: rest => if d = c then some rest else none

def afterWord? (word cs : List Char) : Option (List Char) :=
  if (cs.take word.length).map Char.toUpper == word then some (cs.drop word.length) else none

/-- The digits in `VARCHAR(n)`.  White space may stand around both brackets and the digits, and a
line feed may end the text. -/
def widthDigits? (cs : List Char) : Option (List Nat) := do
  let afterName ← afterWord? "VARCHAR".toList cs
  let inside ← after? '(' (afterName.dropWhile isBlank)
  let number := inside.dropWhile isBlank
  let digits := number.takeWhile isDecimalDigit
  let finish ← after? ')' ((number.dropWhile isDecimalDigit).dropWhile isBlank)
  if digits.isEmpty || !(finish == [] || finish == ['\n']) then failure
  pure (digits.filterMap digitValue?)

/-- Reads a declared type; the empty declaration means no type. -/
def parse (declared : String) : Except ConversionFault (Option ColumnType) :=
  if declared.isEmpty then .ok none
  else
    match keywords.lookup (upper declared) with
    | some type => .ok (some type)
    | none =>
        match widthDigits? declared.toList with
        | some digits =>
            if Number.digitLimit < digits.length then .error .tooManyDigits
            else .ok (some (varchar (some (Number.natOfDigits digits))))
        | none => .ok (some (custom declared))

def parse? (declared : Option String) : Except ConversionFault (Option ColumnType) :=
  declared.elim (.ok none) parse

def kindName : ColumnType → String
  | integer => "INTEGER"
  | real => "REAL"
  | text => "TEXT"
  | blob => "BLOB"
  | any => "ANY"
  | boolean => "BOOLEAN"
  | varchar _ => "VARCHAR"
  | date => "DATE"
  | datetime => "DATETIME"
  | timestamp => "TIMESTAMP"
  | decimal => "DECIMAL"
  | custom _ => "CUSTOM"

def spelling : ColumnType → String
  | custom name => name
  | varchar (some width) => s!"VARCHAR({width})"
  | type => type.kindName

end ColumnType

inductive Affinity where
  | text
  | numeric
  | integer
  | real
  | blob
  deriving DecidableEq, Repr

namespace Affinity

def name : Affinity → String
  | text => "TEXT"
  | numeric => "NUMERIC"
  | integer => "INTEGER"
  | real => "REAL"
  | blob => "BLOB"

/-- The affinity of a type by the words in its upper-case name: the first row that has a word in the
name decides. -/
def ofName (name : String) : Affinity :=
  let has := fun (word : String) => contains word (upper name)
  if has "INT" then integer
  else if has "CHAR" || has "CLOB" || has "TEXT" then text
  else if has "BLOB" then blob
  else if has "REAL" || has "FLOA" || has "DOUB" then real
  else numeric

end Affinity

def ColumnType.affinity : ColumnType → Affinity
  | .integer => .integer
  | .real => .real
  | .text => .text
  | .blob => .blob
  | .custom name => .ofName name
  | _ => .numeric

end RecordLoom.Catalog
