import RecordLoom.Code.Declaration
import RecordLoom.Entity.Basic
import RecordLoom.Record.Output

/-!
The types that generated code refers to: those of values, and those of the library that the code is
compiled with.
-/

namespace RecordLoom.Record

open RecordLoom.Code
open RecordLoom.Entity

namespace Runtime

def database : Node := .named "SQLDatabase"

def tableRecord : Node := .named "SQLTableRecord"

def viewRecord : Node := .named "SQLViewRecord"

def connectionHandler : Node := .named "SQLConnectionHandler"

def tableSchema : Node := .named "SQLTableSchema"

def viewSchema : Node := .named "SQLViewSchema"

def row : Node := .named "SQLRow"

def statement : Node := .named "SQLStatement"

def columnName : String := "MappedColumn"

def schemaName : String := "Schema"

def capability : Catalog.Sql.Operation → Node
  | .insert => .named "SQLInsertableSchema"
  | .update => .named "SQLUpdatableSchema"
  | .delete => .named "SQLDeletableSchema"

end Runtime

def intNode : Node := .named "Int"

def intListNode : Node := .arrayType intNode

def valueNode : ValueType → Node
  | .integer => intNode
  | .double => .named "Double"
  | .string => .named "String"
  | .byteArray => .arrayType (.named "UInt8")
  | .bool => .named "Bool"
  | .date => .named "Date"
  | .data => .named "Data"
  | .url => .named "URL"
  | .decimal => .named "Decimal"
  | .uuid => .named "UUID"
  | .custom name => .named (if name.isEmpty then "String" else name)

def propertyNode (p : Property) : Node :=
  let type := valueNode p.valueType
  if p.isOptional then .optionalType type else type

def recordNode (e : Entity) : Node := .named e.name

def Output.visibility (o : Output) : Visibility := if o.isPublic then .isPublic else .isInternal

def Output.constant (o : Output) (name : String) (value : Node) (type : Option Node)
    (comment : Option String) : Variable where
  name := name
  type := type
  value := value
  constant := true
  visibility := o.visibility
  comment := comment

end RecordLoom.Record
