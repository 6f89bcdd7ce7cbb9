import RecordLoom.Record.RecordType

/-!
Functions that follow relationships from a record: `find` to one record, `fetch` to many.
-/

namespace RecordLoom.Record

open RecordLoom.Code
open RecordLoom.Entity

structure Ends where
  source : Property
  destination : Entity
  target : Property

def ends? (db : Database) (owner : Entity) (r : Relationship) : Option Ends := do
  let destination ← db.entity? r.destination
  let source ← owner.property? r.source
  let target ← destination.property? r.target
  pure ⟨source, destination, target⟩

/-- Naming drops what it cannot resolve, so that a dangling end breaks an invariant. -/
def requireEnds (db : Database) (owner : Entity) (r : Relationship) : Built Ends :=
  match ends? db owner r with
  | some ends => .ok ends
  | none =>
      .error (.invariantBroken "unresolved relationship"
        [("entity", .str owner.raw), ("relationship", .str r.name)])

def lookupCall (name : String) (ends : Ends) (extra : List Argument) : Node :=
  .call (.mk name
    ([bare (.typeExpression (recordNode ends.destination)),
      labelled "where" (.keyPath ends.target.name (some (recordNode ends.destination))),
      labelled "equals" (.member (.variableRef "record") ends.source.name)] ++ extra)
    none true false none)

def recordDoc (owner : Entity) : ParamDoc :=
  ⟨"record", "The " ++ symbol owner.name ++ " record."⟩

namespace Output

variable (o : Output)

def recordParam (owner : Entity) (label : String) : Param where
  name := "record"
  type := recordNode owner
  label := label

def findFunction (db : Database) (owner : Entity) (r : Relationship) : Built Function := do
  let ends ← requireEnds db owner r
  let destination := ends.destination
  pure
    { signature :=
        { name := "find" ++ r.name
          parameters := [recordParam owner (findLabel r)]
          returns := .optionalType (recordNode destination)
          throws := true
          visibility := o.visibility }
      body := [.ret (some (lookupCall "find" ends []))]
      comment := some
        { headline := "Fetch the " ++ symbol destination.name ++ " record related to a " ++
            symbol owner.name ++ " (" ++ ticked r.source ++ ")."
          parameters := [recordDoc owner]
          returnInfo := some ("The related " ++ symbol destination.name ++ ", if there is one.") }
      inlinable := true }

def fetchFunction (db : Database) (owner : Entity) (r : Relationship) : Built Function := do
  let ends ← requireEnds db owner r
  let destination := ends.destination
  pure
    { signature :=
        { name := "fetch" ++ r.name
          parameters :=
            [recordParam owner (fetchLabel r),
             { name := "limit", type := .optionalType intNode, default := some .nilLiteral }]
          returns := .arrayType (recordNode destination)
          throws := true
          visibility := o.visibility }
      body := [.ret (some (lookupCall "fetch" ends [labelled "limit" (.variableRef "limit")]))]
      comment := some
        { headline := "Fetch the " ++ symbol destination.name ++ " records related to a " ++
            symbol owner.name ++ "."
          parameters := [recordDoc owner, ⟨"limit", "Optional limit of records to fetch."⟩]
          returnInfo := some ("The related " ++ symbol destination.name ++ " records.") }
      inlinable := true }

/-- One function for each relationship: all to one record, then all to many. -/
def accessorFunctions (db : Database) : Built (List Function) := do
  let finds ← db.entities.mapM fun e => e.toOne.mapM (o.findFunction db e)
  let fetches ← db.entities.mapM fun e => e.toMany.mapM (o.fetchFunction db e)
  pure (finds.flatten ++ fetches.flatten)

end Output

end RecordLoom.Record
