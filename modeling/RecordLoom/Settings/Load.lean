import RecordLoom.Inputs.Folder
import RecordLoom.Settings.Environment

/-!
Settings of a run from all their sources.  Direct values come before the environment, the
environment before the project's file, and that before the user's file.  A direct value names its
section in any case, a file only as it is spelled.
-/

namespace RecordLoom.Settings

open RecordLoom.Inputs

structure Sources where
  folder : Folder
  /-- Reads the document that a settings file holds, or tells why it cannot. -/
  parse : List UInt8 → Except String Json
  userFile : Path
  environment : Environment
  home : String

def isSilentLine (line : String) : Bool :=
  match line.toList.dropWhile Text.isBlank with
  | [] => true
  | c :: _ => c = '#'

/-- The document that a text holds; a text of silent lines holds none. -/
def parseDocument (text : String) : Except String Json :=
  match Json.parse? text with
  | some document => .ok document
  | none => if (Text.lines text).all isSilentLine then .ok .null else .error "no JSON document"

def projectFile : Path := .ofString "schemaforge.yaml"

/-- The members of the object that a settings file holds; an empty or missing file has none. -/
def readFile (sources : Sources) (path : Path) : Except Failure (List (String × Json)) :=
  match sources.folder.entry? path with
  | some (.file bytes) =>
      match sources.parse bytes with
      | .ok (.obj members) => .ok members
      | .ok .null => .ok []
      | .ok _ => .error (.settingsUnparsable path.toString "top level must be a mapping")
      | .error reason => .error (.settingsUnparsable path.toString reason)
  | some (.unreadable reason) | some (.hidden reason) => .error (.pathHidden path.toString reason)
  | some .directory | none => .ok []

def placeText (place : List Step) : String := ".".intercalate (place.map Step.text)

def rejection (first : Problem) (others : List Problem) : Failure :=
  let more := if others.isEmpty then "" else s!" (and {others.length} more)"
  .settingRejected (placeText first.place) first.input.display (first.message ++ more)

def accept {α : Type} : Checked α → Except Failure α
  | .ok value => .ok value
  | .error (first :: others) => .error (rejection first others)
  | .error [] => .error (.invariantBroken "rejected without a problem" [])

/-- The members of both settings files, those of the project in front. -/
def fileMembers (sources : Sources) (named : Option Path) :
    Except Failure (List (String × Json)) := do
  if let some path := named then
    if !(← sources.folder.isFile path) then throw (.settingsMissing path.toString)
  let base ← readFile sources sources.userFile
  let project ← readFile sources (named.getD projectFile)
  pure (mergeMembers base project)

def sameName (a b : String) : Bool := Text.lower a == Text.lower b

/-- Direct values under the spelling of the sections that they name.  Of two for one section the
first counts, and a name of no section stays as it is. -/
def spellSections (names : List String) (overrides : List (String × Json)) :
    List (String × Json) :=
  let known := names.filterMap fun name =>
    (overrides.find? fun (key, _) => sameName key name).map fun (_, value) => (name, value)
  known ++ overrides.filter fun (key, _) => !names.any (sameName key)

/-- The settings of a run; `overrides` are the direct values.  They are merged over the environment,
and the result over the files. -/
def load (sources : Sources) (named : Option Path) (overrides : List (String × Json)) :
    Except Failure Settings := do
  let files ← fileMembers sources named
  let environment ← environmentMembers sources.home sources.environment
  let names := (sections sources.home).map (·.name)
  let members := mergeMembers files (mergeMembers environment (spellSections names overrides))
  accept (Settings.read sources.home members)

end RecordLoom.Settings
