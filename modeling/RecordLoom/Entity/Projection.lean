import RecordLoom.Entity.Basic

/-!
From a schema to an entity model whose derived names are the SQL names, and from a named model back
to a schema.
-/

namespace RecordLoom

open RecordLoom.Catalog

namespace Entity

def Property.ofColumn (column : Column) (key : Option ForeignKey) : Property where
  column := column.name
  name := column.name
  columnType := column.type
  valueType := .ofColumnType column.type
  notNull := column.notNull
  primaryKey := column.primaryKey
  default := column.default
  foreignKey := key
  primaryKeyDetected := false
  foreignKeyDetected := false

def storedSql (statements : List String) : List String := statements.filter fun sql => !sql.isEmpty

/-- An entity with its SQL names.  Of several keys on one column the first counts. -/
def ofObject (schema : Schema) (kind : Kind) (name sql : String) (columns : List Column)
    (keys : List ForeignKey) : Entity where
  raw := name
  name := name
  kind := kind
  properties := columns.map fun c => .ofColumn c (keys.find? (·.column == c.name))
  relationships := []
  sql := sql
  referenceName := ""
  singularName := ""
  pluralName := ""
  indexSql := storedSql ((schema.indices.group name).map (·.sql))
  triggerSql := storedSql ((schema.triggers.group name).map (·.sql))

end Entity

namespace Database

def ofSchema (schema : Schema) (name : String) : Database where
  name := name
  entities :=
    (schema.tables.map fun t => .ofObject schema .table t.name t.sql t.columns t.foreignKeys) ++
    schema.views.map fun v => .ofObject schema .view v.name v.sql v.columns []
  userVersion := schema.userVersion
  diagnostics := []

def derivedEntityName (db : Database) (raw : String) : String :=
  ((db.entity? raw).map (·.name)).getD raw

def derivedColumnName (db : Database) (entity column : String) : String :=
  (((db.entity? entity).bind (·.property? column)).map (·.name)).getD column

def toColumn (p : Entity.Property) (position : Nat) : Column where
  id := position
  name := p.name
  type := p.columnType
  notNull := p.notNull
  default := p.default
  primaryKey := p.primaryKey

def toColumns (e : Entity) : List Column :=
  e.properties.zipIdx.map fun (p, position) => toColumn p position

def declaredKeys (db : Database) (e : Entity) : List ForeignKey :=
  let keyed := e.properties.filterMap fun p =>
    if p.foreignKeyDetected then none else p.foreignKey.map (p, ·)
  keyed.zipIdx.map fun ((p, key), id) =>
    { key with
      id := id
      seq := 0
      column := p.name
      table := db.derivedEntityName key.table
      referenced := db.derivedColumnName key.table key.target }

/-- A schema with the derived names.  The stored statements keep the SQL names. -/
def toSchema (db : Database) : Schema where
  version := 0
  userVersion := db.userVersion
  tables := db.tables.map fun e => ⟨e.name, e.sql, toColumns e, db.declaredKeys e⟩
  views := db.views.map fun e => ⟨e.name, e.sql, toColumns e⟩
  indices := []
  triggers := []

end Database

end RecordLoom
