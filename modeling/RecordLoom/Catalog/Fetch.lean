import RecordLoom.Catalog.Engine
import RecordLoom.Catalog.Schema

/-!
Reads the schema of an open database: the catalog and the two versions first, then row by row the
columns of every table and view and the foreign keys of every table.
-/

namespace RecordLoom.Catalog

def internalStart : String := "sqlite_"

def isInternal (name : String) : Bool := Text.startsWith name internalStart

def ColumnRow.toColumn (row : ColumnRow) : Except ConversionFault Column := do
  let type ← ColumnType.parse? row.type
  let default ← Literal.parse? row.default
  pure ⟨row.id, row.name, type, row.notNull != 0, default, row.key != 0⟩

def ForeignKeyRow.toForeignKey (row : ForeignKeyRow) : ForeignKey where
  id := row.id
  seq := row.seq
  column := row.column
  table := row.table
  referenced := row.referenced.getD row.column
  onUpdate := .parse row.onUpdate
  onDelete := .parse row.onDelete
  matching := .parse row.matching

section

variable {State : Type} (engine : Engine State) (place : Place) (source : String)

def fetchColumns (name : String) : Run State (List Column) := do
  let rows ← Run.ask (.queryTableInfo place name) (engine.tableInfo place name)
    (.fetchFailed source · (some name))
  Run.ofConversion (rows.mapM ColumnRow.toColumn)

def fetchForeignKeys (name : String) : Run State (List ForeignKey) := do
  let rows ← Run.ask (.queryForeignKeys place name) (engine.foreignKeyList place name)
    (.fetchFailed source · (some name))
  pure (rows.map ForeignKeyRow.toForeignKey)

/-- Adds what a catalog row describes.  Rows of unknown kinds are skipped. -/
def fetchRow (schema : Schema) (row : CatalogRow) : Run State Schema := do
  let sql := row.sql.getD ""
  match row.kind with
  | "table" =>
      if isInternal row.name then pure schema
      else
        let columns ← fetchColumns engine place source row.name
        let keys ← fetchForeignKeys engine place source row.name
        pure { schema with tables := schema.tables ++ [⟨row.name, sql, columns, keys⟩] }
  | "view" =>
      let columns ← fetchColumns engine place source row.name
      pure { schema with views := schema.views ++ [⟨row.name, sql, columns⟩] }
  | "index" =>
      let index : Index := ⟨row.name, row.table, row.rootPage.getD 0, sql⟩
      pure { schema with indices := schema.indices.add row.table index }
  | "trigger" =>
      let trigger : Trigger := ⟨row.name, row.table, sql⟩
      pure { schema with triggers := schema.triggers.add row.table trigger }
  | kind =>
      Run.tell (.note .debug "catalog_object_skipped"
        [("kind", .str kind), ("name", .str row.name)])
      pure schema

/-- The schema of the open database at `place`.  Failures name `source` as the input. -/
def fetchSchema : Run State Schema := do
  let blame := fun e => Failure.fetchFailed source e none
  let rows ← Run.ask (.queryCatalog place) (engine.catalog place) blame
  let version ← Run.ask (.querySchemaVersion place) (engine.schemaVersion place) blame
  let userVersion ← Run.ask (.queryUserVersion place) (engine.userVersion place) blame
  let empty : Schema :=
    { Schema.empty with version := version.getD 0, userVersion := userVersion.getD 0 }
  let schema ← rows.foldlM (fetchRow engine place source) empty
  Run.tell (.note .debug "schema_fetched"
    [("source", .str source), ("tables", .int schema.tables.length),
     ("views", .int schema.views.length), ("version", .int schema.version)])
  pure schema

end

end RecordLoom.Catalog
