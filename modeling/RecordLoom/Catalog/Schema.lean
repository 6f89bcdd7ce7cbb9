import RecordLoom.Catalog.ColumnType
import RecordLoom.Catalog.ForeignKey
import RecordLoom.Catalog.Literal

/-!
The schema of a database: tables and views in catalog order, and the indices and triggers of each
table in the order in which the catalog first names the table.
-/

namespace RecordLoom.Catalog

structure Column where
  id : Int
  name : String
  type : Option ColumnType
  notNull : Bool
  default : Option Literal
  primaryKey : Bool
  deriving DecidableEq, Repr

structure Table where
  name : String
  sql : String
  columns : List Column
  foreignKeys : List ForeignKey
  deriving DecidableEq, Repr

structure View where
  name : String
  sql : String
  columns : List Column
  deriving DecidableEq, Repr

/-- The indices that a table's constraints imply have no SQL text. -/
structure Index where
  name : String
  table : String
  rootPage : Int
  sql : String
  deriving DecidableEq, Repr

structure Trigger where
  name : String
  table : String
  sql : String
  deriving DecidableEq, Repr

/-- Values grouped under keys, in the order in which the keys first came. -/
abbrev Groups (α : Type) := List (String × List α)

def Groups.add {α : Type} (groups : Groups α) (key : String) (value : α) : Groups α :=
  match groups with
  | [] => [(key, [value])]
  | (k, values) :: rest =>
      if k == key then (k, values ++ [value]) :: rest else (k, values) :: Groups.add rest key value

def Groups.group {α : Type} (groups : Groups α) (key : String) : List α :=
  (groups.lookup key).getD []

structure Schema where
  version : Int
  userVersion : Int
  tables : List Table
  views : List View
  indices : Groups Index
  triggers : Groups Trigger
  deriving DecidableEq, Repr

def Schema.empty : Schema := ⟨0, 0, [], [], [], []⟩

def findColumn? (columns : List Column) (name : String) : Option Column :=
  columns.find? (·.name == name)

namespace Schema

def table? (schema : Schema) (name : String) : Option Table :=
  schema.tables.find? (·.name == name)

def view? (schema : Schema) (name : String) : Option View :=
  schema.views.find? (·.name == name)

/-- The schema without what depends on storage: its version and the pages of its indices. -/
def canonical (schema : Schema) : Schema :=
  { schema with
    version := 0
    indices := schema.indices.map fun (table, indices) =>
      (table, indices.map fun index => { index with rootPage := 0 }) }

end Schema

end RecordLoom.Catalog
