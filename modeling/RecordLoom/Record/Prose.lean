import RecordLoom.Record.Types

/-!
The comments that generated code carries.  They quote SQL names and statements as they are.
-/

namespace RecordLoom.Record

open RecordLoom.Catalog
open RecordLoom.Code
open RecordLoom.Entity

def ticked (s : String) : String := "`" ++ s ++ "`"

def symbol (s : String) : String := "``" ++ s ++ "``"

/-- What a comment says about a default; a default of null is no default. -/
def defaultNote : Option Literal → String
  | none | some .null => ""
  | some (.expression _) => " (has default)"
  | some value => " (default: " ++ ticked value.display ++ ")"

def propertyComment (p : Property) : String :=
  let role := if p.primaryKey then "Primary key" else "Column"
  let type := p.columnType.elim "ANY" (·.spelling)
  role ++ " " ++ ticked p.column ++ " (" ++ ticked type ++ "), " ++
    (if p.isOptional then "optional" else "required") ++ defaultNote p.default ++ "."

def columnComment (e : Entity) (p : Property) : String :=
  "Column of " ++ symbol (e.name ++ "/" ++ p.name) ++ " (" ++ ticked p.column ++ ")."

def propertyDocs (e : Entity) : List ParamDoc :=
  e.properties.map fun p => ⟨p.name, propertyComment p⟩

def findLabel (r : Relationship) : String := if r.primary then "for" else "for" ++ r.name

def fetchLabel (r : Relationship) : String := "for" ++ r.qualifier.getD ""

def readExample (e : Entity) : CodeExample where
  headline := "Read a " ++ symbol e.name ++ " from a row of " ++
    symbol (Runtime.schemaName ++ "/select") ++ ":"
  code := "let record = try " ++ e.name ++ "(row: row)"

def relationshipExamples (db : Database) (o : Output) (e : Entity) : List CodeExample :=
  match o.accessors, e.toOne with
  | true, r :: _ =>
      (db.entity? r.destination).toList.map fun destination =>
        { headline := "Find the related " ++ symbol destination.name ++ ":"
          code := "let related = try db.find" ++ r.name ++ "(" ++ findLabel r ++ ": record)" }
  | _, _ => []

def sqlExamples (e : Entity) : List CodeExample :=
  let creation : CodeExample := ⟨"The SQL used to create the " ++ e.kind.name ++ ":", e.sql, none⟩
  let indices := e.indexSql.map fun sql => ⟨"Index:", sql, none⟩
  let triggers := e.triggerSql.map fun sql => ⟨"Trigger:", sql, none⟩
  (creation :: (indices ++ triggers)).filter fun listing => !listing.code.isEmpty

def recordComment (db : Database) (o : Output) (e : Entity) : TypeComment where
  headline := "A record in the " ++ ticked e.raw ++ " " ++ e.kind.name ++ "."
  info := "Record bound to the SQL " ++ e.kind.name ++ " " ++ ticked e.raw ++ "." ++
    if e.kind == .view && e.isReadOnly then "\nThe view is read-only." else ""
  examples := readExample e :: relationshipExamples db o e
  sql := sqlExamples e

def schemaComment (e : Entity) : TypeComment where
  headline := "Static SQL information of " ++ symbol e.name ++ " (" ++ ticked e.raw ++ " " ++
    e.kind.name ++ ")."

def databaseComment (db : Database) : TypeComment where
  headline := "A structure representing a SQLite database."
  info := s!"The database has {db.tables.length} table(s) and {db.views.length} view(s)."

end RecordLoom.Record
