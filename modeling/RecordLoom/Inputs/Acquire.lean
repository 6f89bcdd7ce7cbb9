import RecordLoom.Catalog.Fetch
import RecordLoom.Inputs.Folder

/-!
One schema from a list of inputs.  A single database file is read as it is.  Any other list is
replayed in order into a scratch database, whose schema is fetched at the end: of a database file
the stored statements of its tables, views, indices and triggers, in that order; of a script its
text.
-/

namespace RecordLoom.Inputs

open RecordLoom.Catalog

def databaseMagic : List UInt8 := ("SQLite format 3".toList.map fun c => c.toNat.toUInt8) ++ [0]

inductive InputKind where
  | database
  | script
  deriving DecidableEq, Repr

def classify (folder : Folder) (path : Path) : Except Failure InputKind :=
  match folder.entry? path with
  | some (.file bytes) =>
      .ok (if bytes.take databaseMagic.length == databaseMagic then .database else .script)
  | some (.unreadable reason) => .error (.inputUnreadable path.toString reason)
  | some (.hidden reason) => .error (.pathHidden path.toString reason)
  | some .directory | none => .error (.inputNotFound path.toString)

def normalizeLineEnds : List Char → List Char
  | [] => []
  | '\r' :: '\n' :: rest => '\n' :: normalizeLineEnds rest
  | '\r' :: rest => '\n' :: normalizeLineEnds rest
  | c :: rest => c :: normalizeLineEnds rest

def decodeText (bytes : List UInt8) : Option String :=
  (String.fromUTF8? ⟨bytes.toArray⟩).map fun text => .ofList (normalizeLineEnds text.toList)

def readScript (folder : Folder) (path : Path) : Except Failure String :=
  match folder.entry? path with
  | some (.file bytes) =>
      match decodeText bytes with
      | some text => .ok text
      | none => .error (.inputUnreadable path.toString "the bytes are not valid UTF-8")
  | some (.unreadable reason) | some (.hidden reason) =>
      .error (.inputUnreadable path.toString reason)
  | some .directory | none => .error (.inputNotFound path.toString)

def scratchSource : String := "<scratch>"

structure StoredStatement where
  kind : String
  name : String
  sql : String
  deriving DecidableEq, Repr

def objectStatements (schema : Schema) : List StoredStatement :=
  let tables := schema.tables.map fun t => ⟨"table", t.name, t.sql⟩
  let views := schema.views.map fun v => ⟨"view", v.name, v.sql⟩
  let indices := schema.indices.flatMap fun (_, group) =>
    group.map fun i => ⟨"index", i.name, i.sql⟩
  let triggers := schema.triggers.flatMap fun (_, group) =>
    group.map fun t => ⟨"trigger", t.name, t.sql⟩
  tables ++ views ++ indices ++ triggers

/-- The statements that are replayed; an object without a statement comes back with its table. -/
def storedStatements (schema : Schema) : List StoredStatement :=
  (objectStatements schema).filter fun s => !s.sql.isEmpty

/-- The statement that sets the user version, a number of 32 bits. -/
def userVersionStatement (version : Int) : String := s!"PRAGMA user_version = {version}"

section

variable {State : Type} (engine : Engine State) (folder : Folder)

def readDatabase (path : Path) : Run State Schema :=
  let place := Place.file (folder.resolvedName path)
  Run.withConnection engine place path.toString (fetchSchema engine place path.toString)

def replayStatement (source : String) (s : StoredStatement) : Run State Unit :=
  Run.ask (.execute s.sql) (engine.execute s.sql)
    (Rejection.blame (.recreateFailed s.kind s.name source))

def replayDatabase (path : Path) : Run State Unit := do
  let schema ← readDatabase engine folder path
  (storedStatements schema).forM (replayStatement engine path.toString)
  let sql := userVersionStatement schema.userVersion
  Run.ask (.execute sql) (engine.execute sql) (Rejection.blame .engineRefused)
  Run.tell (.note .debug "database_replayed"
    [("source", .str path.toString), ("statements", .int (objectStatements schema).length)])

def replayScript (path : Path) : Run State Unit := do
  let text ← ExceptT.mk (pure (readScript folder path))
  Run.ask (.runScript text) (engine.script text) (Rejection.blame (.scriptFailed path.toString))
  Run.tell (.note .debug "script_applied"
    [("source", .str path.toString), ("chars", .int text.length)])

def replay (input : Path × InputKind) : Run State Unit :=
  match input with
  | (path, .database) => replayDatabase engine folder path
  | (path, .script) => replayScript engine folder path

def replayAll (inputs : List (Path × InputKind)) : Run State Schema :=
  Run.withConnection engine .scratch scratchSource do
    inputs.forM (replay engine folder)
    fetchSchema engine .scratch scratchSource

/-- The kinds of all inputs; the first that is missing or unreadable fails the run before any
call. -/
def classifyAll (paths : List Path) : Except Failure (List (Path × InputKind)) :=
  paths.mapM fun path => (classify folder path).map (path, ·)

def acquireKinds (inputs : List (Path × InputKind)) : Run State Schema :=
  match inputs with
  | [(path, .database)] => readDatabase engine folder path
  | _ => replayAll engine folder inputs

def pathList (paths : List Path) : Json := .arr (paths.map fun path => .str path.toString)

def acquire (paths : List Path) : Run State Schema := do
  let inputs ← ExceptT.mk (pure (classifyAll folder paths))
  let schema ← acquireKinds engine folder inputs
  Run.tell (.note .info "schema_acquired"
    [("inputs", pathList paths), ("tables", .int schema.tables.length),
     ("views", .int schema.views.length)])
  pure schema

end

end RecordLoom.Inputs
