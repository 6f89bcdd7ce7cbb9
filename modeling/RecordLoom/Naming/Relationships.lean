import RecordLoom.Naming.Dedupe
import RecordLoom.Naming.Finding
import RecordLoom.Naming.Names

/-!
Relationships from foreign keys.  Every key that resolves gives a to-one relationship to its owner
and, if wanted, a to-many relationship to its destination.
-/

namespace RecordLoom.Naming

open RecordLoom.Catalog
open RecordLoom.Entity

/-- The name without a suffix; the empty suffix leaves nothing. -/
def stripSuffix (name suffix : String) : String :=
  if suffix.isEmpty then "" else Text.dropLast name suffix.length

/-- The capitalized name of a property without the first suffix that ends it, short of all of it. -/
def Options.relationshipName (o : Options) (p : Property) : String :=
  let name := Casing.upperFirst p.name
  match o.relationshipSuffixes.find? fun s => Text.endsWith name s && name != s with
  | some suffix => stripSuffix name suffix
  | none => name

def isNamesake (p : Property) (destination : Entity) (target : Property) : Bool :=
  target.column == p.column ||
    Text.lower (destination.name ++ target.name) == Text.lower p.name ||
    Text.lower (destination.raw ++ "_" ++ target.column) == Text.lower p.column

/-- What a foreign key refers to; `position` is that of the destination among the entities. -/
inductive Resolution where
  | resolved (destination : Entity) (position : Nat) (target : Property)
  | unknownTable
  | unknownColumn (destination : Entity)

/-- The entity of the key's table, and its target column or else its lone primary key. -/
def resolve (entities : List Entity) (key : ForeignKey) : Resolution :=
  match findNamed (fun (e, _) => e.raw) entities.zipIdx key.table with
  | none => .unknownTable
  | some (destination, position) =>
      match (destination.property? key.target).orElse fun _ => destination.primaryKey? with
      | some target => .resolved destination position target
      | none => .unknownColumn destination

def unresolvedKey (e : Entity) (p : Property) (code : Diagnostic.Code) (what : String) :
    Diagnostic where
  code := code
  severity := .warning
  message := "Foreign key '" ++ e.raw ++ "." ++ p.column ++ "' references unknown " ++ what ++
    "; relationship dropped"
  entity := e.raw
  column := p.column

structure Edge where
  owner : Nat
  relationship : Relationship
  deriving DecidableEq, Repr

/-- What the keys of one entity have used up so far. -/
structure KeyState where
  names : List String
  primaryToOne : List String
  primaryToMany : List String

def keyedProperties (e : Entity) : List (Property × ForeignKey) :=
  e.properties.filterMap fun p => p.foreignKey.map (p, ·)

def countKeysTo (keyed : List (Property × ForeignKey)) (table : String) : Nat :=
  keyed.countP fun (_, key) => Text.lower key.table == Text.lower table

/-- One destination has one primary relationship in each direction. -/
def choosePrimary (used : List String) (destination : String) (alone namesake : Bool) : Bool :=
  !used.contains destination && (alone || namesake)

def markUsed (used : List String) (destination : String) (primary : Bool) : List String :=
  if primary then destination :: used else used

structure Source where
  entity : Entity
  position : Nat
  keyed : List (Property × ForeignKey)

/-- The two relationships of a key that resolves. -/
def relate (o : Options) (source : Source) (state : KeyState) (p : Property) (key : ForeignKey)
    (destination : Entity) (position : Nat) (target : Property) : List Edge × KeyState :=
  let (name, names) := dedupe (o.relationshipName p) state.names
  let place := Text.lower destination.raw
  let namesake := isNamesake p destination target
  let alone := countKeysTo source.keyed key.table ≤ 1
  let toOne := choosePrimary state.primaryToOne place alone namesake
  let toMany := choosePrimary state.primaryToMany place (source.keyed.length == 1) namesake
  let forward : Relationship :=
    { name, source := p.column, destination := destination.raw, target := target.column,
      toMany := false, primary := toOne, qualifier := none, detected := p.foreignKeyDetected }
  let backward : Relationship :=
    { name := Casing.upperFirst (Inflection.pluralize source.entity.name), source := target.column,
      destination := source.entity.raw, target := p.column, toMany := true, primary := toMany,
      qualifier := if toMany then none else some name, detected := p.foreignKeyDetected }
  let edges := ⟨source.position, forward⟩ ::
    if o.reverseRelationships then [⟨position, backward⟩] else []
  (edges,
    ⟨names, markUsed state.primaryToOne place toOne, markUsed state.primaryToMany place toMany⟩)

/-- The relationships of the keys of one entity, in property order, and the keys that lead
nowhere. -/
def relateKeys (o : Options) (entities : List Entity) (source : Source) (state : KeyState) :
    List (Property × ForeignKey) → List Edge × List Finding
  | [] => ([], [])
  | (p, key) :: rest =>
      match resolve entities key with
      | .unknownTable =>
          let what := "table '" ++ key.table ++ "'"
          let (edges, findings) := relateKeys o entities source state rest
          (edges, .problem (unresolvedKey source.entity p .unresolvedTable what) :: findings)
      | .unknownColumn destination =>
          let what := "column '" ++ destination.raw ++ "." ++ key.target ++ "'"
          let (edges, findings) := relateKeys o entities source state rest
          (edges, .problem (unresolvedKey source.entity p .unresolvedColumn what) :: findings)
      | .resolved destination position target =>
          let (pair, state) := relate o source state p key destination position target
          let (edges, findings) := relateKeys o entities source state rest
          (pair ++ edges, findings)

def relateEntity (o : Options) (entities : List Entity) (e : Entity) (position : Nat) :
    List Edge × List Finding :=
  let keyed := keyedProperties e
  relateKeys o entities ⟨e, position, keyed⟩ ⟨[], [], []⟩ keyed

def relateAll (o : Options) (entities : List Entity) : List Edge × List Finding :=
  let results := entities.zipIdx.map fun (e, position) => relateEntity o entities e position
  (results.flatMap (·.1), results.flatMap (·.2))

def attach (edges : List Edge) (entities : List Entity) : List Entity :=
  entities.zipIdx.map fun (e, position) =>
    { e with relationships := (edges.filter (·.owner == position)).map (·.relationship) }

end RecordLoom.Naming
