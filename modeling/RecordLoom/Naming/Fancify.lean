import RecordLoom.Entity.Projection
import RecordLoom.Naming.Identifiers
import RecordLoom.Naming.Keys
import RecordLoom.Naming.Relationships

/-!
The naming engine.  Property types come first, then detected primary keys, detected foreign keys,
names, and relationships, which are built anew on every run.
-/

namespace RecordLoom.Naming

/-- Entities after a pass, with what the pass found. -/
abbrev Pass := List Entity → List Entity × List Finding

def Pass.each (step : Entity → Entity × List Finding) : Pass := fun entities =>
  let results := entities.map step
  (results.map (·.1), results.flatMap (·.2))

def Pass.andThen (first second : Pass) : Pass := fun entities =>
  let (entities, before) := first entities
  let (entities, after) := second entities
  (entities, before ++ after)

namespace Options

variable (o : Options)

def typePass : Pass := fun entities => (entities.map o.assignTypes, [])

def primaryKeyPass : Pass :=
  if o.detectPrimaryKeys then Pass.each o.detectPrimaryKey else fun entities => (entities, [])

def foreignKeyPass : Pass := fun entities =>
  if o.detectForeignKeys then
    Pass.each (o.detectForeignKeys? (o.destinations entities)) entities
  else (entities, [])

def namePass : Pass := fun entities =>
  let results := renameEntities o .none entities
  (results.map (·.1), results.flatMap (·.2))

def relationshipPass : Pass := fun entities =>
  let (edges, findings) := if o.deriveRelationships then relateAll o entities else ([], [])
  (attach edges entities, findings)

def passes : Pass :=
  o.typePass.andThen <| o.primaryKeyPass.andThen <| o.foreignKeyPass.andThen <|
    o.namePass.andThen o.relationshipPass

end Options

def run (o : Options) (db : Database) : Database × List Finding :=
  let (entities, findings) := o.passes db.entities
  ({ db with
      name := o.databaseName db.name
      entities := entities
      diagnostics := findings.filterMap Finding.diagnostic? }, findings)

def refine (o : Options) (db : Database) : Database := (run o db).1

def fancify (o : Options) (schema : Catalog.Schema) (name : String) : Database :=
  refine o (.ofSchema schema name)

def events (db : Database) (findings : List Finding) : List Journal.Event :=
  findings.map Finding.event ++
    [.note .debug "fancify_completed"
      [("database", .str db.name), ("entities", .int db.entities.length),
       ("diagnostics", .int db.diagnostics.length)]]

end RecordLoom.Naming
