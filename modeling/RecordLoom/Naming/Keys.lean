import RecordLoom.Naming.Finding
import RecordLoom.Naming.Names

/-!
Property types, and the primary and foreign keys that are detected by their names.
-/

namespace RecordLoom.Naming

open RecordLoom.Catalog
open RecordLoom.Entity

namespace Options

variable (o : Options)

/-- The last entry whose key differs from a declared type in case only. -/
def mappedType? (declared : String) : Option ValueType :=
  (o.typeMap.reverse.find? fun (key, _) => Text.lower key == Text.lower declared).map
    fun (_, tag) => .ofTag tag

/-- The type of a property: by the end of its column's name, by its declared type in the type map,
or by the declared type itself. -/
def valueType (p : Property) : ValueType :=
  match o.columnSuffixMap.find? fun (suffix, _) => Text.endsWith p.column suffix with
  | some (_, tag) => .ofTag tag
  | none => (p.columnType.bind fun type => o.mappedType? type.spelling).getD
      (.ofColumnType p.columnType)

def assignTypes (e : Entity) : Entity :=
  { e with properties := e.properties.map fun p => { p with valueType := o.valueType p } }

end Options

def nameVariants (raw : String) : List String :=
  let singular := Inflection.singularize raw
  if singular == raw then [raw] else [raw, singular]

def Options.keyCandidates (o : Options) (raw : String) : List String :=
  o.primaryKeyNames ++ (nameVariants raw).flatMap fun base =>
    o.primaryKeyNames.flatMap fun key => [base ++ key, base ++ "_" ++ key]

def lastNamed? (properties : List Property) (column : String) : Option Nat :=
  (properties.zipIdx.reverse.find? fun (p, _) => p.column == column).map (·.2)

def firstAlike? (properties : List Property) (column : String) : Option Nat :=
  properties.findIdx? fun p => Text.lower p.column == Text.lower column

/-- The property for the first candidate that names one, exact spellings before others. -/
def firstCandidate? (properties : List Property) (candidates : List String) : Option Nat :=
  (candidates.findSome? (lastNamed? properties)).orElse fun _ =>
    candidates.findSome? (firstAlike? properties)

def markPrimaryKey (p : Property) : Property :=
  { p with primaryKey := true, primaryKeyDetected := true }

/-- Gives an entity without primary key the one that its column names suggest. -/
def Options.detectPrimaryKey (o : Options) (e : Entity) : Entity × List Finding :=
  if !e.primaryKeys.isEmpty then (e, [])
  else
    match firstCandidate? e.properties (o.keyCandidates e.raw) with
    | none => (e, [])
    | some position =>
        let findings := e.properties[position]?.toList.map fun p => .primaryKey e.raw p.column
        ({ e with properties := e.properties.modify position markPrimaryKey }, findings)

structure Destination where
  table : String
  column : String
  valueType : ValueType
  deriving DecidableEq, Repr

def Options.isEligible (o : Options) (e : Entity) : Bool :=
  e.kind == .table || o.detectForeignKeysInViews

/-- The column names, in lower case, that suggest a reference to an entity. -/
def Options.referenceNames (o : Options) (e : Entity) (key : Property) : List String :=
  let named := (nameVariants e.raw).flatMap fun base =>
    o.foreignKeySuffixes.flatMap fun suffix => [base ++ suffix, base ++ "_" ++ suffix]
  (if o.foreignKeyNeedsTableName then named else named ++ [key.column]).map Text.lower

/-- The destinations by the names that suggest them; the first of a name counts. -/
def Options.destinations (o : Options) (entities : List Entity) : List (String × Destination) :=
  entities.flatMap fun e =>
    match o.isEligible e, e.primaryKey? with
    | true, some key =>
        (o.referenceNames e key).map (·, ⟨e.raw, key.column, key.valueType⟩)
    | _, _ => []

def ambiguousKey (e : Entity) (p : Property) (declared : String) (d : Destination) :
    Diagnostic where
  code := .ambiguousForeignKey
  severity := .warning
  message := "Column '" ++ p.column ++ "' of '" ++ e.raw ++ "' references '" ++ declared ++
    "' but its name suggests '" ++ d.table ++ "'; keeping the declared key"
  entity := e.raw
  column := p.column

def detectedKey (p : Property) (d : Destination) : ForeignKey where
  id := -1
  seq := -1
  column := p.column
  table := d.table
  referenced := d.column
  onUpdate := .noAction
  onDelete := .noAction
  matching := .none

/-- A declared key stays as it is; one is added only between equal types. -/
def refer (e : Entity) (p : Property) (d : Destination) : Property × List Finding :=
  match p.foreignKey with
  | some key =>
      if Text.lower key.table == Text.lower d.table then (p, [])
      else (p, [.problem (ambiguousKey e p key.table d)])
  | none =>
      if d.valueType = p.valueType then
        ({ p with foreignKey := some (detectedKey p d), foreignKeyDetected := true },
         [.foreignKey e.raw p.column d.table])
      else (p, [])

/-- The lone primary key of an entity refers to nothing. -/
def detectForeignKey (destinations : List (String × Destination)) (e : Entity) (p : Property) :
    Property × List Finding :=
  if e.isSoleKey p then (p, [])
  else
    match destinations.lookup (Text.lower p.column) with
    | some d => refer e p d
    | none => (p, [])

def Options.detectForeignKeys? (o : Options) (destinations : List (String × Destination))
    (e : Entity) : Entity × List Finding :=
  if o.isEligible e then
    let results := e.properties.map (detectForeignKey destinations e)
    ({ e with properties := results.map (·.1) }, results.flatMap (·.2))
  else (e, [])

end RecordLoom.Naming
