import RecordLoom.Naming.Dedupe
import RecordLoom.Naming.Finding
import RecordLoom.Naming.Names

/-!
The names of all entities and properties of a database, distinct within each namespace.
-/

namespace RecordLoom.Naming

open RecordLoom.Entity

structure Taken where
  records : List String
  references : List String
  /-- Singular and plural SQL-style names share one namespace. -/
  rawNames : List String

def Taken.none : Taken := ⟨[], [], []⟩

/-- Whether a property takes the forced name: it is the lone primary key and no other property has
that name at this moment. -/
def takesForcedName (e : Entity) (forced : String) (p : Property) (others : List Property) : Bool :=
  !forced.isEmpty && p.primaryKey && !e.hasCompoundKey && !others.any (·.name == forced)

/-- Renames the properties from left to right; `renamed` holds those before, the latest first. -/
def renameProperties (o : Options) (e : Entity) (taken : List String) (renamed : List Property) :
    List Property → List Property
  | [] => renamed.reverse
  | p :: rest =>
      let forced := o.forcePrimaryKeyName.getD ""
      if takesForcedName e forced p (renamed ++ rest) then
        renameProperties o e (claim forced taken) ({ p with name := forced } :: renamed) rest
      else
        let (name, taken) := dedupe (o.propertyName p.name) taken
        renameProperties o e taken ({ p with name } :: renamed) rest

def guessedSingular (e : Entity) (name : String) : Diagnostic where
  code := .genericSingular
  severity := .info
  message := "Singular of '" ++ e.name ++ "' guessed as '" ++ name ++ "'"
  entity := e.raw
  column := none

def renameEntity (o : Options) (taken : Taken) (e : Entity) : Entity × List Finding × Taken :=
  let (wanted, guessed) := o.recordName e.name
  let (name, records) := dedupe wanted taken.records
  let (referenceName, references) :=
    dedupe (Inflection.pluralize (Casing.lowerFirst name)) taken.references
  let snake := Casing.snakeCase name
  let singular := applyIf o.singularizeRecordNames Inflection.singularize snake
  let (singularName, rawNames) := dedupe singular taken.rawNames
  let (pluralName, rawNames) := dedupe (Inflection.pluralize snake) rawNames
  let properties := renameProperties o e [] [] e.properties
  ({ e with name, referenceName, singularName, pluralName, properties },
   if guessed then [.problem (guessedSingular e wanted)] else [],
   ⟨records, references, rawNames⟩)

def renameEntities (o : Options) (taken : Taken) : List Entity → List (Entity × List Finding)
  | [] => []
  | e :: rest =>
      let (named, findings, taken) := renameEntity o taken e
      (named, findings) :: renameEntities o taken rest

end RecordLoom.Naming
