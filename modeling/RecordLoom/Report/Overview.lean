import RecordLoom.Entity.Basic
import RecordLoom.Json.Basic

/-!
Overviews of a named database: a table for people and a document for programs.
-/

namespace RecordLoom.Report

structure Overview where
  title : String
  columns : List String
  rows : List (List String)
  deriving DecidableEq, Repr

def destinationName (db : Database) (r : Entity.Relationship) : String :=
  (db.entity? r.destination).elim "" (·.name)

def relationshipCell (db : Database) (r : Entity.Relationship) : String :=
  r.name ++ " → " ++ destinationName db r ++ if r.toMany then " (many)" else ""

def relationshipsCell (db : Database) (e : Entity) : String :=
  let cell := ", ".intercalate (e.relationships.map (relationshipCell db))
  if cell.isEmpty then "-" else cell

def entityRow (db : Database) (e : Entity) : List String :=
  [e.raw, e.kind.name, e.name, toString e.properties.length, relationshipsCell db e]

def entityOverview (db : Database) : Overview where
  title := db.name
  columns := ["SQL name", "Kind", "Record", "Properties", "Relationships"]
  rows := db.entities.map (entityRow db)

def Overview.widths (o : Overview) : List Nat :=
  o.rows.foldl (fun widths row => widths.zipWith max (row.map String.length))
    (o.columns.map String.length)

def padCell (cell : String) (width : Nat) : String :=
  cell ++ .ofList (List.replicate (width - cell.length) ' ')

def Overview.lines (o : Overview) : List String :=
  o.title :: (o.columns :: o.rows).map fun cells =>
    "  ".intercalate (cells.zipWith padCell o.widths)

def diagnosticDocument (d : Diagnostic) : Json :=
  .obj [("code", .str d.code.name), ("severity", .str d.severity.name),
    ("message", .str d.message), ("entity", d.entity.elim .null .str),
    ("column", d.column.elim .null .str)]

/-- The derived names by SQL name; of two entities of one name the later counts. -/
def recordNames (db : Database) : List (String × Json) :=
  Json.ofMembers (db.entities.map fun e => (e.raw, .str e.name))

def databaseDocument (db : Database) : Json :=
  .obj [("database", .str db.name), ("records", .obj (recordNames db)),
    ("diagnostics", .arr (db.diagnostics.map diagnosticDocument))]

end RecordLoom.Report
