import RecordLoom.Catalog.Schema
import RecordLoom.Catalog.Sql
import RecordLoom.Entity.ValueType

/-!
The entity model: tables and views with the names and relationships that generated code gives them.
Relationships refer to entities and properties by their SQL names, which never change.
-/

namespace RecordLoom

open RecordLoom.Catalog

namespace Entity

structure Property where
  column : String
  name : String
  columnType : Option ColumnType
  valueType : ValueType
  notNull : Bool
  primaryKey : Bool
  default : Option Literal
  foreignKey : Option ForeignKey
  primaryKeyDetected : Bool
  foreignKeyDetected : Bool
  deriving DecidableEq, Repr

/-- Generated code allows a missing value; a primary key is taken to be always there. -/
def Property.isOptional (p : Property) : Bool := !(p.notNull || p.primaryKey)

inductive Kind where
  | table
  | view
  deriving DecidableEq, Repr

def Kind.name : Kind → String
  | table => "table"
  | view => "view"

/-- A directed edge from a property of its owner to a property of another entity. -/
structure Relationship where
  name : String
  source : String
  destination : String
  target : String
  toMany : Bool
  primary : Bool
  qualifier : Option String
  detected : Bool
  deriving DecidableEq, Repr

/-- The first element with this SQL name, else the first whose name differs in case only. -/
def findNamed {α : Type} (name : α → String) (items : List α) (wanted : String) : Option α :=
  (items.find? fun item => name item == wanted).orElse fun _ =>
    items.find? fun item => Text.lower (name item) == Text.lower wanted

end Entity

open Entity

structure Entity where
  raw : String
  name : String
  kind : Kind
  properties : List Property
  relationships : List Relationship
  sql : String
  referenceName : String
  singularName : String
  pluralName : String
  indexSql : List String
  triggerSql : List String
  deriving DecidableEq, Repr

namespace Entity

def primaryKeys (e : Entity) : List Property := e.properties.filter (·.primaryKey)

def hasCompoundKey (e : Entity) : Bool := 1 < e.primaryKeys.length

def primaryKey? (e : Entity) : Option Property :=
  match e.primaryKeys with
  | [key] => some key
  | _ => none

def isSoleKey (e : Entity) (p : Property) : Bool := p.primaryKey && e.primaryKeys.length == 1

def property? (e : Entity) (column : String) : Option Property :=
  findNamed Property.column e.properties column

/-- Tables support every operation, views those of their `INSTEAD OF` triggers. -/
def supports (e : Entity) (operation : Sql.Operation) : Bool :=
  e.kind == .table || e.triggerSql.any fun sql => Sql.insteadOf? sql == some operation

def isReadOnly (e : Entity) : Bool := !Sql.Operation.all.any e.supports

def toOne (e : Entity) : List Relationship := e.relationships.filter fun r => !r.toMany

def toMany (e : Entity) : List Relationship := e.relationships.filter (·.toMany)

end Entity

inductive Severity where
  | error
  | warning
  | info
  deriving DecidableEq, Repr

def Severity.name : Severity → String
  | error => "error"
  | warning => "warning"
  | info => "info"

namespace Diagnostic

inductive Code where
  | unresolvedTable
  | unresolvedColumn
  | ambiguousForeignKey
  | genericSingular
  deriving DecidableEq, Repr

def Code.name : Code → String
  | unresolvedTable => "unresolved_foreign_key_table"
  | unresolvedColumn => "unresolved_foreign_key_column"
  | ambiguousForeignKey => "ambiguous_foreign_key"
  | genericSingular => "generic_singularization"

end Diagnostic

/-- A problem of naming that costs a relationship or a nicer name and never ends a run. -/
structure Diagnostic where
  code : Diagnostic.Code
  severity : Severity
  message : String
  entity : Option String
  column : Option String
  deriving DecidableEq, Repr

structure Database where
  name : String
  entities : List Entity
  userVersion : Int
  diagnostics : List Diagnostic
  deriving DecidableEq, Repr

namespace Database

def entity? (db : Database) (raw : String) : Option Entity := findNamed Entity.raw db.entities raw

def tables (db : Database) : List Entity := db.entities.filter (·.kind == .table)

def views (db : Database) : List Entity := db.entities.filter (·.kind == .view)

end Database

end RecordLoom
