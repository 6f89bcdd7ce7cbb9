import RecordLoom.Entity.Basic

/-!
The SQL statements of an entity.  Each comes with a list that has an entry for every property: the
number, from one, of the placeholder that the property is bound to, or `-1` if the statement has
none for it.  A statement's text and its list are made from the same list of positions.
-/

namespace RecordLoom.Record

open RecordLoom.Catalog
open RecordLoom.Entity

abbrev Slot := Property × Nat

def slots (e : Entity) : List Slot := e.properties.zipIdx

/-- The entry for an unbound property. -/
def unbound : Int := -1

/-- The number of the placeholder that a property position has. -/
def placeholderOf (bound : List Slot) (position : Nat) : Int :=
  match bound.findIdx? fun slot => slot.2 == position with
  | some index => index + 1
  | none => unbound

def placeholders (e : Entity) (bound : List Slot) : List Int :=
  (List.range e.properties.length).map (placeholderOf bound)

def allUnbound (e : Entity) : List Int := List.replicate e.properties.length unbound

def quotedColumn (slot : Slot) : String := Sql.quoteIdentifier slot.1.column

def columnList (bound : List Slot) : String := ", ".intercalate (bound.map quotedColumn)

def equations (separator : String) (bound : List Slot) : String :=
  separator.intercalate (bound.map fun slot => quotedColumn slot ++ " = ?")

/-- Whether the engine assigns the value on insertion: the only key of a table, declared as such and
as an integer. -/
def isAssigned (e : Entity) (p : Property) : Bool :=
  e.isSoleKey p && e.kind == .table && !p.primaryKeyDetected && p.valueType == .integer &&
    p.columnType == some .integer

def insertedSlots (e : Entity) : List Slot := (slots e).filter fun slot => !isAssigned e slot.1

def keySlots (e : Entity) : List Slot := (slots e).filter (·.1.primaryKey)

def valueSlots (e : Entity) : List Slot := (slots e).filter fun slot => !slot.1.primaryKey

/-- What tells a row from the others: its keys, or without keys all of it. -/
def matchSlots (e : Entity) : List Slot :=
  let keys := keySlots e
  if keys.isEmpty then slots e else keys

/-- All statements of an entity; one that it cannot run is missing. -/
structure Statements where
  selectColumns : String
  select : String
  selectIndices : List Int
  insert : Option String
  insertReturning : Option String
  insertIndices : List Int
  update : Option String
  updateIndices : List Int
  delete : Option String
  deleteIndices : List Int
  deriving DecidableEq, Repr

namespace Statements

def tableName (e : Entity) : String := Sql.quoteIdentifier e.raw

def selectText (e : Entity) : String := "SELECT " ++ columnList (slots e) ++ " FROM " ++ tableName e

def insertText (e : Entity) : String :=
  let values := insertedSlots e
  if values.isEmpty then "INSERT INTO " ++ tableName e ++ " DEFAULT VALUES"
  else
    "INSERT INTO " ++ tableName e ++ " ( " ++ columnList values ++ " ) VALUES ( " ++
      ", ".intercalate (values.map fun _ => "?") ++ " )"

def returningText (e : Entity) : String :=
  insertText e ++ " RETURNING " ++ columnList (slots e)

def updateText (e : Entity) : String :=
  "UPDATE " ++ tableName e ++ " SET " ++ equations ", " (valueSlots e) ++ " WHERE " ++
    equations " AND " (keySlots e)

def deleteText (e : Entity) : String :=
  "DELETE FROM " ++ tableName e ++ " WHERE " ++ equations " AND " (matchSlots e)

/-- Every property is bound once, so that an update needs keys apart from the values. -/
def canUpdate (e : Entity) : Bool :=
  e.supports .update && !(keySlots e).isEmpty && !(valueSlots e).isEmpty

def when {α : Type} (possible : Bool) (value : α) : Option α :=
  if possible then some value else none

def indicesWhen (possible : Bool) (e : Entity) (bound : List Slot) : List Int :=
  if possible then placeholders e bound else allUnbound e

def ofEntity (e : Entity) : Statements where
  selectColumns := columnList (slots e)
  select := selectText e
  selectIndices := (List.range e.properties.length).map Int.ofNat
  insert := when (e.supports .insert) (insertText e)
  insertReturning := when (e.supports .insert) (returningText e)
  insertIndices := indicesWhen (e.supports .insert) e (insertedSlots e)
  update := when (canUpdate e) (updateText e)
  updateIndices := indicesWhen (canUpdate e) e (valueSlots e ++ keySlots e)
  delete := when (e.supports .delete) (deleteText e)
  deleteIndices := indicesWhen (e.supports .delete) e (matchSlots e)

end Statements

end RecordLoom.Record
