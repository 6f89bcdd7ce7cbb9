import RecordLoom.Record.Defaults
import RecordLoom.Record.Prose
import RecordLoom.Record.Statements
import RecordLoom.Text.Trim

/-!
The type nested in a record that holds its columns and SQL statements.
-/

namespace RecordLoom.Record

open RecordLoom.Code
open RecordLoom.Entity

def indexNode (indices : List Int) : Node := .intArrayLiteral indices

namespace Output

variable (o : Output)

def withStatement (statement : Option String) (constants : String → List Variable) :
    List Variable :=
  statement.elim [] constants

def indexConstant (name : String) (indices : List Int) (comment : String) : Variable :=
  o.constant name (indexNode indices) intListNode comment

def parameterIndices (statement : String) (indices : List Int) : Variable :=
  o.indexConstant (statement ++ "ParameterIndices") indices
    ("Parameter position of each property in " ++ symbol statement ++ ", -1 if unused.")

def selectVariables (e : Entity) (s : Statements) : List Variable :=
  [o.constant "select" (.stringLiteral s.select) none
     (some (ticked "SELECT" ++ " all columns of " ++ ticked e.raw ++ ".")),
   o.constant "selectColumns" (.stringLiteral s.selectColumns) none none,
   o.indexConstant "selectColumnIndices" s.selectIndices
     ("Property positions in " ++ symbol "selectColumns" ++ ".")]

def rowStatement (name verb : String) (e : Entity) (sql : String) : Variable :=
  o.constant name (.stringLiteral sql) none
    (some (ticked verb ++ " a " ++ ticked e.raw ++ " row."))

def updateVariables (e : Entity) (s : Statements) : List Variable :=
  withStatement s.update fun sql =>
    [o.rowStatement "update" "UPDATE" e sql, o.parameterIndices "update" s.updateIndices]

def insertVariables (e : Entity) (s : Statements) : List Variable :=
  withStatement s.insert fun sql =>
    withStatement s.insertReturning fun returning =>
      [o.rowStatement "insert" "INSERT" e sql,
       o.constant "insertReturning" (.stringLiteral returning) none none,
       o.parameterIndices "insert" s.insertIndices]

def deleteVariables (e : Entity) (s : Statements) : List Variable :=
  withStatement s.delete fun sql =>
    [o.rowStatement "delete" "DELETE" e sql, o.parameterIndices "delete" s.deleteIndices]

def statementVariables (e : Entity) (s : Statements) : List Variable :=
  o.selectVariables e s ++ o.updateVariables e s ++ o.insertVariables e s ++ o.deleteVariables e s

def creationText (sql : String) : Option String :=
  let sql := Text.trim sql
  if sql.isEmpty then none else some (if Text.endsWith sql ";" then sql else sql ++ ";")

def creationVariables (e : Entity) : List Variable :=
  withStatement (creationText e.sql) fun sql =>
    [o.constant "create" (.stringLiteral sql) none
       (some ("The SQL used to create the " ++ ticked e.raw ++ " " ++ e.kind.name ++ "."))]

def schemaTypeVariables (e : Entity) : List Variable :=
  [o.constant "externalName" (.stringLiteral e.raw) none
     (some ("The SQL " ++ e.kind.name ++ " of " ++ symbol e.name ++ " records.")),
   o.constant "columnCount" (.intLiteral e.properties.length) (some intNode) none] ++
    o.creationVariables e ++ o.statementVariables e (.ofEntity e)

def column (e : Entity) (slot : Slot) : Variable :=
  let (p, position) := slot
  let value := callNode Runtime.columnName
    [labelled "externalName" (.stringLiteral p.column),
     labelled "position" (.intLiteral position),
     labelled "isPrimaryKey" (.boolLiteral p.primaryKey),
     labelled "keyPath" (.keyPath p.name (some (recordNode e)))]
  let type := .namedType Runtime.columnName [recordNode e, propertyNode p]
  o.constant p.name value (some type) (some (columnComment e p))

def schemaConformances (e : Entity) : List Node :=
  match e.kind with
  | .table => [Runtime.tableSchema]
  | .view =>
      Runtime.viewSchema :: (Catalog.Sql.Operation.all.filter e.supports).map Runtime.capability

def schemaType (e : Entity) : TypeDef where
  name := Runtime.schemaName
  visibility := o.visibility
  conformances := schemaConformances e
  typeVariables := o.schemaTypeVariables e
  instanceVariables := (slots e).map (o.column e)
  functions :=
    [{ signature := { name := "init", visibility := o.visibility, isInitializer := true }
       inlinable := true }]
  comment := schemaComment e

end Output

end RecordLoom.Record
