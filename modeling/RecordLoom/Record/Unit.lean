import RecordLoom.Journal.Event
import RecordLoom.Record.Accessors

/-!
The unit of a named database: a type for the database, a type for the records of each entity, and an
extension with the functions that follow relationships.  Names are taken from the model as they are.
-/

namespace RecordLoom.Record

open RecordLoom.Code
open RecordLoom.Entity

namespace Output

variable (o : Output)

def databaseInitializer (db : Database) : Function where
  signature :=
    { name := "init"
      parameters := [{ name := "connectionHandler", type := Runtime.connectionHandler }]
      visibility := o.visibility
      isInitializer := true }
  body := [storeParameter "connectionHandler"]
  comment := some
    { headline := "Initialize " ++ symbol db.name ++ " with a connection handler."
      parameters := [⟨"connectionHandler", "The pool or connection to use."⟩] }
  inlinable := true

def databaseType (db : Database) : TypeDef where
  name := db.name
  visibility := o.visibility
  conformances := [Runtime.database]
  typeVariables :=
    [o.constant "userVersion" (.intLiteral db.userVersion) (some intNode)
       (some ("User version of the database (" ++ ticked "PRAGMA user_version" ++ ").")),
     o.constant "recordTypes"
       (.arrayExpression (db.entities.map fun e => .typeExpression (recordNode e)))
       (some (.arrayType (.qualifiedType (.named "Any") "Type")))
       (some "The record types of the database, in schema order.")]
  instanceVariables :=
    [{ name := "connectionHandler"
       type := some Runtime.connectionHandler
       constant := true
       visibility := o.visibility }]
  functions := [o.databaseInitializer db]
  comment := databaseComment db

def extensions (db : Database) (accessors : List Function) : List Extension :=
  if accessors.isEmpty then []
  else
    [{ extendedType := .named db.name, visibility := o.visibility, functions := accessors }]

def unit (db : Database) : Built CompilationUnit := do
  let accessors ← if o.accessors then o.accessorFunctions db else pure []
  let records ← db.entities.mapM (o.recordType db)
  pure
    { name := db.name
      header := o.header
      imports := o.imports
      reexports := o.reexports
      structures := o.databaseType db :: records
      extensions := o.extensions db accessors }

end Output

def lostDefaultEvent (p : Property) : Journal.Event :=
  .note .debug "default_not_converted"
    [("column", .str p.column),
     ("default", .str (p.default.elim "" (·.display))),
     ("property_type", .str p.valueType.tag)]

def events (db : Database) (unit : CompilationUnit) : List Journal.Event :=
  (db.entities.flatMap fun e => (e.properties.filter losesDefault).map lostDefaultEvent) ++
    [.note .debug "unit_built"
      [("name", .str unit.name), ("structures", .int unit.structures.length),
       ("extensions", .int unit.extensions.length)]]

end RecordLoom.Record
