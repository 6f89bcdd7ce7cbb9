import RecordLoom.Failure
import RecordLoom.Journal.Event

/-!
The database engine as the program sees it: a handful of calls that change a state and answer or
refuse.  A run keeps the list of the calls it made, in order, and the events it told.
-/

namespace RecordLoom.Catalog

inductive Place where
  | file (path : String)
  | scratch
  deriving DecidableEq, Repr

/-- A row of the catalog.  Names and kinds are taken to be texts: a row without them, which only a
script can bring about that writes to the catalog itself, cannot be expressed. -/
structure CatalogRow where
  kind : String
  name : String
  table : String
  rootPage : Option Int
  sql : Option String
  deriving DecidableEq, Repr

structure ColumnRow where
  id : Int
  name : String
  type : Option String
  notNull : Int
  default : Option String
  key : Int
  deriving DecidableEq, Repr

structure ForeignKeyRow where
  id : Int
  seq : Int
  table : String
  column : String
  referenced : Option String
  onUpdate : Option String
  onDelete : Option String
  matching : Option String
  deriving DecidableEq, Repr

abbrev Reply (State α : Type) := State → Except EngineError α × State

/-- Why something that is sent is not carried out: the engine refuses it, or the call that sends it
breaks down and the engine never says anything. -/
inductive Rejection where
  | refused (engine : EngineError)
  | broken (fault : CallFault)
  deriving DecidableEq, Repr

/-- What is blamed on an input is only what the engine refuses. -/
def Rejection.blame (blame : EngineError → Failure) : Rejection → Failure
  | refused engine => blame engine
  | broken fault => .callBroken fault

abbrev Receipt (State : Type) := State → Except Rejection Unit × State

structure Engine (State : Type) where
  connect : Place → Reply State Unit
  catalog : Place → Reply State (List CatalogRow)
  schemaVersion : Place → Reply State (Option Int)
  userVersion : Place → Reply State (Option Int)
  tableInfo : Place → String → Reply State (List ColumnRow)
  foreignKeyList : Place → String → Reply State (List ForeignKeyRow)
  execute : String → Receipt State
  script : String → Receipt State

inductive Call where
  | connect (place : Place) (accepted : Bool)
  | release (place : Place)
  | queryCatalog (place : Place)
  | querySchemaVersion (place : Place)
  | queryUserVersion (place : Place)
  | queryTableInfo (place : Place) (name : String)
  | queryForeignKeys (place : Place) (name : String)
  | execute (sql : String)
  | runScript (text : String)
  deriving DecidableEq, Repr

structure Trace (State : Type) where
  engine : State
  calls : List Call
  events : List Journal.Event

namespace Trace

variable {State : Type}

def start (engine : State) : Trace State := ⟨engine, [], []⟩

def record (trace : Trace State) (call : Call) : Trace State :=
  { trace with calls := trace.calls ++ [call] }

def tell (trace : Trace State) (event : Journal.Event) : Trace State :=
  { trace with events := trace.events ++ [event] }

end Trace

/-- A part of a run: it fails or yields a value, and its trace remains either way. -/
abbrev Run (State α : Type) := ExceptT Failure (StateM (Trace State)) α

namespace Run

variable {State ε α : Type}

def tell (event : Journal.Event) : Run State Unit := modify (·.tell event)

/-- Makes a call; `blame` says what an answer that is none means. -/
def ask (call : Call) (reply : State → Except ε α × State) (blame : ε → Failure) : Run State α :=
  fun trace =>
    let (answer, engine) := reply trace.engine
    (answer.mapError blame, { trace.record call with engine })

/-- Connects to a database; the call records whether it was let in. -/
def connect (engine : Engine State) (place : Place) (source : String) : Run State Unit :=
  fun trace =>
    let (answer, state) := engine.connect place trace.engine
    let call := Call.connect place (answer matches .ok _)
    (answer.mapError (.openFailed source), { trace.record call with engine := state })

/-- Runs `body` on an open database, which is released on every way out. -/
def withConnection (engine : Engine State) (place : Place) (source : String)
    (body : Run State α) : Run State α :=
  fun trace =>
    let run : Run State α := do
      connect engine place source
      body
    let (result, trace) := run trace
    (result, trace.record (.release place))

def ofConversion (result : Except ConversionFault α) : Run State α :=
  ExceptT.mk (pure (result.mapError .conversion))

end Run

end RecordLoom.Catalog
