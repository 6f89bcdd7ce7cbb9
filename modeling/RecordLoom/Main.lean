import RecordLoom.Catalog.Recording
import RecordLoom.Command.Run

/-!
The command line.  A database is known by the recording beside it: the file whose name adds
`.recording.json` holds what an engine says of the database, `scratch.recording.json` what it says
of the scratch database.
-/

open RecordLoom
open RecordLoom.Catalog
open RecordLoom.Command
open RecordLoom.Inputs

def readEntry (path : Path) : IO (Option Entry) := do
  match ← (IO.FS.readBinFile path.toString).toBaseIO with
  | .ok bytes => pure (some (.file bytes.toList))
  | .error (.noFileOrDirectory ..) => pure none
  | .error (.inappropriateType ..) => pure (some .directory)
  | .error e =>
      -- A path that is still resolved leads to something that is there and cannot be opened.
      match ← (IO.FS.realPath path.toString).toBaseIO with
      | .ok _ => pure (some (.unreadable (toString e)))
      | .error refusal => pure (some (.hidden (toString refusal)))

def readEntries (path : Path) : IO (List (Path × Entry)) := do
  let places := (List.range (path.parts.length + 1)).map fun count =>
    { path with parts := path.parts.take count }
  let entries ← places.mapM fun place => do
    pure ((← readEntry place).map (place.collapsed, ·))
  pure (entries.filterMap id)

def readFolder (paths : List Path) : IO Folder := do
  pure ⟨(← paths.mapM readEntries).flatten⟩

def recordingPath : Place → Path
  | .scratch => .ofString "scratch.recording.json"
  | .file path => .ofString (path ++ ".recording.json")

def readRecording (place : Place) : IO (Place × Json) := do
  match ← readEntry (recordingPath place) with
  | some (.file bytes) => pure (place, ((decodeText bytes).bind Json.parse?).getD .null)
  | _ => pure (place, .null)

def readEngine (folder : Folder) (paths : List Path) : IO (Engine Unit) := do
  let places := paths.map fun path => Place.file (folder.resolvedName path)
  let recordings ← (Place.scratch :: places).mapM readRecording
  pure (Recording.engine fun place => (recordings.lookup place).getD .null)

def readEnvironment : IO Settings.Environment := do
  match ← readEntry (.ofString "/proc/self/environ") with
  | some (.file bytes) => pure (.ofBlock ((decodeText bytes).getD ""))
  | _ => pure []

def parseSettings (bytes : List UInt8) : Except String Json :=
  match decodeText bytes with
  | some text => Settings.parseDocument text
  | none => .error "the bytes are not valid UTF-8"

def freshRunId : IO String := do
  let bytes ← IO.getRandomBytes 6
  pure (.ofList (bytes.toList.flatMap fun byte => Json.hexDigits 2 byte.toNat))

def readWorld (arguments : List String) : IO (World Unit) := do
  let home := (← IO.getEnv "HOME").getD "/"
  let userFile := Path.ofString (home ++ "/.config/schemaforge/config.yaml")
  let named := namedPaths arguments
  let folder ← readFolder (Settings.projectFile :: userFile :: named)
  let environment ← readEnvironment
  let sources := Settings.Sources.mk folder parseSettings userFile environment home
  pure ⟨sources, ← readEngine folder named, ← freshRunId⟩

def writeRecords (destination : String) (records : List Journal.Record) : IO Unit := do
  let text := String.join (records.map fun record => record.text ++ "\n")
  match destination with
  | "stderr" => IO.eprint text
  | "stdout" => IO.print text
  | path => IO.FS.withFile path .append fun file => file.putStr text

def writeSource (file : Path × String) : IO Unit := do
  IO.FS.createDirAll file.1.parent.toString
  IO.FS.writeFile file.1.toString file.2

def present (outcome : Outcome) : IO Unit := do
  outcome.overviews.forM fun overview => overview.lines.forM IO.eprintln
  outcome.writes.forM writeSource
  outcome.status.forM IO.eprintln
  IO.print outcome.output
  if outcome.exitCode == 2 then IO.eprint groupHelp
  outcome.message.forM IO.eprintln

def main (arguments : List String) : IO UInt32 := do
  let world ← readWorld arguments
  let ended := world.run arguments ()
  (Journal.idle.run ended.journal).written.forM fun (destination, records) =>
    writeRecords destination records
  present ended.outcome
  pure ended.outcome.exitCode.toUInt32
