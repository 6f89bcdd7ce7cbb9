import RecordLoom.Record.SchemaType

/-!
The type of an entity's records: its properties, and the functions that make a record, read it from
a row and bind it to a statement.
-/

namespace RecordLoom.Record

open RecordLoom.Code
open RecordLoom.Entity

abbrev Built (α : Type) := Except Failure α

def ownMember (name : String) : Node := .member .selfRef name

def storeParameter (name : String) : Node := .assignment (ownMember name) (.variableRef name)

def schemaColumn (e : Entity) (p : Property) : Node :=
  .member (.member (.variableRef e.name) "schema") p.name

def propertyParam (p : Property) : Built Param := do
  let default ← (defaultExpression p).mapError .conversion
  pure { name := p.name, type := propertyNode p, default }

namespace Output

variable (o : Output)

def initializer (e : Entity) : Built Function := do
  let parameters ← e.properties.mapM propertyParam
  pure
    { signature :=
        { name := "init", parameters, visibility := o.visibility, isInitializer := true }
      body := e.properties.map fun p => storeParameter p.name
      comment := some
        { headline := "Initialize a new " ++ symbol e.name ++ " record."
          parameters := propertyDocs e }
      inlinable := true }

def rowValue (e : Entity) (p : Property) : Argument :=
  labelled p.name (.call (.mk "value"
    [labelled "of" (schemaColumn e p), labelled "at" (.variableRef "indices")]
    (some (.variableRef "row")) false false none))

def rowInitializer (e : Entity) : Function where
  signature :=
    { name := "init"
      parameters :=
        [{ name := "row", type := Runtime.row },
         { name := "indices"
           type := intListNode
           default := some (.member (.variableRef Runtime.schemaName) "selectColumnIndices") }]
      throws := true
      visibility := o.visibility
      isInitializer := true }
  body :=
    [.callStatement (.mk "init" (e.properties.map (rowValue e)) (some .selfRef) true false none)]
  comment := some
    { headline := "Initialize a " ++ symbol e.name ++ " from a result row."
      parameters :=
        [⟨"row", "The row to read."⟩,
         ⟨"indices", "Column position of each property in the row."⟩]
      throwsInfo := some "If a column value cannot be converted to its property type." }
  inlinable := true

def bindProperty (e : Entity) (p : Property) : Node :=
  .callStatement (.mk "bind"
    [bare (ownMember p.name), labelled "to" (schemaColumn e p),
     labelled "at" (.variableRef "indices")]
    (some (.variableRef "statement")) true false none)

def bindFunction (e : Entity) : Function where
  signature :=
    { name := "bind"
      parameters :=
        [{ name := "statement", type := Runtime.statement, label := some "to" },
         { name := "indices", type := intListNode }]
      throws := true
      visibility := o.visibility }
  body := e.properties.map (bindProperty e)
  comment := some
    { headline := "Bind the properties to the positional parameters of a statement."
      info := some (symbol "indices" ++ " is one of the parameter index lists of " ++
        symbol Runtime.schemaName ++ ", e.g. " ++
        symbol (Runtime.schemaName ++ "/insertParameterIndices") ++
        ". Properties at -1 are skipped.")
      parameters :=
        [⟨"statement", "The prepared statement."⟩,
         ⟨"indices", "Parameter position of each property."⟩]
      throwsInfo := some "If the statement rejects a value." }
  inlinable := true

def recordConformances (e : Entity) : List Node :=
  (match e.kind with
    | .table => Runtime.tableRecord
    | .view => Runtime.viewRecord) ::
    if e.primaryKey?.isSome then [.named "Identifiable"] else []

/-- The lone primary key under the name `id`, unless a property has that name. -/
def idProperty (e : Entity) : List ComputedProperty :=
  match e.primaryKey? with
  | some key =>
      if e.properties.any (·.name == "id") then []
      else
        [{ name := "id"
           type := propertyNode key
           body := [.ret (some (ownMember key.name))]
           visibility := o.visibility
           comment := some ("Returns the primary key (" ++ symbol key.name ++ ").")
           inlinable := true }]
  | none => []

def recordTypeVariables (e : Entity) : List Variable :=
  [o.constant "schema" (callNode Runtime.schemaName []) none
     (some "Static SQL information of the record."),
   o.constant "externalName" (.stringLiteral e.raw) none (some "The SQL name of the record."),
   o.constant "columnNames"
     (.arrayExpression (e.properties.map fun p => .stringLiteral p.column))
     (some (.arrayType (.named "String"))) none]

def recordVariable (p : Property) : Variable where
  name := p.name
  type := propertyNode p
  visibility := o.visibility
  comment := propertyComment p

def recordType (db : Database) (e : Entity) : Built TypeDef := do
  let initializer ← o.initializer e
  pure
    { name := e.name
      visibility := o.visibility
      conformances := recordConformances e
      nestedTypes := [o.schemaType e]
      typeVariables := o.recordTypeVariables e
      instanceVariables := e.properties.map o.recordVariable
      computed := o.idProperty e
      functions := [initializer, o.rowInitializer e] ++
        if e.isReadOnly then [] else [o.bindFunction e]
      comment := some (recordComment db o e) }

end Output

end RecordLoom.Record
