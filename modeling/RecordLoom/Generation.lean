import RecordLoom.Code.Unit
import RecordLoom.Inputs.Acquire
import RecordLoom.Naming.Fancify
import RecordLoom.Record.Unit
import RecordLoom.Settings.Config

/-!
One run from inputs to source text: the schema is acquired, named, built into a unit and printed.  A
run gives a complete result or fails; problems of naming are part of the result.
-/

namespace RecordLoom

open RecordLoom.Catalog
open RecordLoom.Inputs

structure Generation where
  database : Database
  unit : Code.CompilationUnit
  source : String
  deriving Repr

namespace Generation

def defaultName : String := "Database"

/-- The name that naming starts from: the one given, or the file name of the first input. -/
def rawName (given : Option String) (paths : List Path) : String :=
  match given.filter fun name => !name.isEmpty with
  | some name => name
  | none => (paths.head?.map Path.name).getD defaultName

def tellAll {State : Type} (events : List Journal.Event) : Run State Unit :=
  events.forM Run.tell

section

variable {State : Type} (engine : Engine State) (folder : Folder)

def describe (options : Naming.Options) (paths : List Path) (name : String) :
    Run State Database := do
  let schema ← acquire engine folder paths
  let (database, findings) := Naming.run options (.ofSchema schema name)
  tellAll (Naming.events database findings)
  pure database

def build (settings : Settings) (paths : List Path) (name : Option String) :
    Run State Generation := do
  let database ← describe engine folder settings.naming paths (rawName name paths)
  let unit ← ExceptT.mk (pure (settings.output.unit database))
  tellAll (Record.events database unit)
  let source ← ExceptT.mk (pure (unit.render settings.render .swift))
  pure ⟨database, unit, source⟩

def failureEvent (f : Failure) : Journal.Event :=
  { level := .error, name := "generation_failed", fields := [], error := some f }

def completedEvent (g : Generation) : Journal.Event :=
  .note .info "generation_completed"
    [("database", .str g.database.name), ("entities", .int g.database.entities.length),
     ("diagnostics", .int g.database.diagnostics.length), ("chars", .int g.source.length)]

def run (settings : Settings) (paths : List Path) (name : Option String) :
    Run State Generation := do
  Run.tell (.note .info "generation_started" [("inputs", pathList paths)])
  let generation ← tryCatch (build engine folder settings paths name) fun f => do
    if f.isReported then Run.tell (failureEvent f)
    throw f
  Run.tell (completedEvent generation)
  pure generation

end

end Generation

end RecordLoom
