import RecordLoom.Catalog.ColumnType

/-!
The types of generated properties, without regard to the language that they are generated for.
-/

namespace RecordLoom.Entity

open RecordLoom.Catalog

inductive ValueType where
  | integer
  | double
  | string
  | byteArray
  | bool
  | date
  | data
  | url
  | decimal
  | uuid
  | custom (name : String)
  deriving DecidableEq, Repr

namespace ValueType

def builtIn : List ValueType :=
  [integer, double, string, byteArray, bool, date, data, url, decimal, uuid]

def kindName : ValueType → String
  | integer => "integer"
  | double => "double"
  | string => "string"
  | byteArray => "byteArray"
  | bool => "bool"
  | date => "date"
  | data => "data"
  | url => "url"
  | decimal => "decimal"
  | uuid => "uuid"
  | custom _ => "custom"

def tag : ValueType → String
  | custom name => if name.isEmpty then "custom" else name
  | type => type.kindName

/-- Reads a tag in any case; any other word names a custom type. -/
def ofTag (word : String) : ValueType :=
  (builtIn.find? fun type => Text.lower word == Text.lower type.kindName).getD (custom word)

def ofColumnType : Option ColumnType → ValueType
  | none => string
  | some type =>
      match type with
      | .integer => integer
      | .real => double
      | .text | .any | .varchar _ | .date | .datetime => string
      | .blob => byteArray
      | .boolean => bool
      | .timestamp => date
      | .decimal => decimal
      | .custom name => if Text.lower name == "url" then url else string

end ValueType

end RecordLoom.Entity
