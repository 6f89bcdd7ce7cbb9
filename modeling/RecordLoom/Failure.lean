import RecordLoom.Json.Basic

/-!
Everything that can end a run early, by cause.  Reported failures have a code, a name and details;
the others are faults in a value that no part of a run attributes to an input.
-/

namespace RecordLoom

structure EngineError where
  message : String
  code : Option String
  deriving DecidableEq, Repr

/-- Values that have no reading in the type they are put into. -/
inductive ConversionFault where
  | tooManyDigits
  | oddHexDigits
  | beyondDouble
  | untypedVariable (name : String)
  deriving DecidableEq, Repr

/-- Texts that a call cannot hand to the database engine. -/
inductive CallFault where
  | nullCharacter
  | severalStatements
  deriving DecidableEq, Repr

inductive Failure where
  | settingsUnparsable (path reason : String)
  | settingRejected (field shown reason : String)
  | settingsMissing (path : String)
  /-- A variable of the environment for a whole section, or for a list or map, is no JSON text. -/
  | environmentUnparsable (part : String)
  | inputNotFound (source : String)
  | inputUnreadable (source reason : String)
  /-- The system does not let anyone look at what stands at a path. -/
  | pathHidden (path reason : String)
  | openFailed (source : String) (engine : EngineError)
  | scriptFailed (source : String) (engine : EngineError)
  | recreateFailed (kind name source : String) (engine : EngineError)
  | fetchFailed (source : String) (engine : EngineError) (object : Option String)
  | invariantBroken (reason : String) (details : List (String × Json))
  | unrenderable (kind : String)
  /-- A statement of the replay itself was refused. -/
  | engineRefused (engine : EngineError)
  | callBroken (fault : CallFault)
  | conversion (fault : ConversionFault)
  | unspelled (meaning : String)
  deriving Repr, BEq

namespace Failure

/-- Codes from 2000 are about settings, from 3000 about inputs, from 9000 about this program. -/
def code? : Failure → Option Nat
  | settingsUnparsable .. => some 2001
  | settingRejected .. => some 2002
  | settingsMissing .. => some 2004
  | inputNotFound .. => some 3001
  | inputUnreadable .. => some 3002
  | openFailed .. => some 3003
  | scriptFailed .. => some 3004
  | recreateFailed .. => some 3005
  | fetchFailed .. => some 3006
  | invariantBroken .. => some 9001
  | unrenderable .. => some 9002
  | environmentUnparsable .. | pathHidden .. | engineRefused .. | callBroken .. | conversion ..
  | unspelled .. => none

def isReported (f : Failure) : Bool := f.code?.isSome

def name : Failure → String
  | settingsUnparsable .. => "CONFIG_PARSE_ERROR"
  | settingRejected .. => "CONFIG_INVALID_VALUE"
  | settingsMissing .. => "CONFIG_FILE_NOT_FOUND"
  | environmentUnparsable .. => "SettingsError"
  | inputNotFound .. => "INPUT_NOT_FOUND"
  | inputUnreadable .. => "INPUT_UNREADABLE"
  | pathHidden .. => "OSError"
  | openFailed .. => "DATABASE_OPEN_FAILED"
  | scriptFailed .. => "SCRIPT_FAILED"
  | recreateFailed .. => "RECREATE_FAILED"
  | fetchFailed .. => "SCHEMA_FETCH_FAILED"
  | invariantBroken .. => "INTERNAL_ERROR"
  | unrenderable .. => "UNRENDERABLE_NODE"
  | engineRefused .. => "ENGINE_ERROR"
  | callBroken .nullCharacter => "ValueError"
  | callBroken .severalStatements => "Warning"
  | conversion .beyondDouble => "OverflowError"
  | conversion _ => "ValueError"
  | unspelled .. => "KeyError"

def message : Failure → String
  | settingsUnparsable path reason => s!"{path} is not a valid config file: {reason}"
  | settingRejected field _ reason => s!"Config value {field} rejected: {reason}"
  | settingsMissing path => s!"No config file at {path}"
  | environmentUnparsable part =>
      "error parsing value for field \"" ++ part ++ "\" from source \"EnvSettingsSource\""
  | inputNotFound source => s!"Input not found: {source}"
  | inputUnreadable source reason => s!"Input could not be read: {source}: {reason}"
  | pathHidden _ reason => reason
  | openFailed source engine => s!"Could not open database {source}: {engine.message}"
  | scriptFailed source engine => s!"SQL script {source} failed: {engine.message}"
  | recreateFailed kind name source engine =>
      s!"Could not recreate {kind} '" ++ name ++ s!"' from {source}: {engine.message}"
  | fetchFailed source engine object =>
      let place := match object with
        | some name => if name.isEmpty then "" else s!" ({name})"
        | none => ""
      s!"Could not fetch schema from {source}{place}: {engine.message}"
  | invariantBroken reason _ => s!"Generator invariant broken: {reason}"
  | unrenderable kind => s!"Cannot render IR node of type {kind}"
  | engineRefused engine => engine.message
  | callBroken .nullCharacter => "embedded null character"
  | callBroken .severalStatements => "You can only execute one statement at a time."
  | conversion .tooManyDigits => "Too many digits for an integer"
  | conversion .oddHexDigits => "Odd number of hexadecimal digits"
  | conversion .beyondDouble => "Integer too large for a double"
  | conversion (.untypedVariable name) => "Variable '" ++ name ++ "' needs a type or a value"
  | unspelled meaning => meaning

def optionalText (s : Option String) : Json := s.elim .null .str

def engineDetails (engine : EngineError) : List (String × Json) :=
  [("engine_code", optionalText engine.code), ("engine_message", .str engine.message)]

def details : Failure → List (String × Json)
  | settingsUnparsable path reason => [("path", .str path), ("reason", .str reason)]
  | settingRejected field shown reason =>
      [("field", .str field), ("value", .str shown), ("reason", .str reason)]
  | settingsMissing path => [("path", .str path)]
  | inputNotFound source => [("source", .str source)]
  | inputUnreadable source reason => [("source", .str source), ("reason", .str reason)]
  | openFailed source engine | scriptFailed source engine =>
      ("source", .str source) :: engineDetails engine
  | recreateFailed kind name source engine =>
      [("source", .str source), ("object_type", .str kind), ("object_name", .str name)] ++
        engineDetails engine
  | fetchFailed source engine object =>
      [("source", .str source), ("object_name", optionalText object)] ++ engineDetails engine
  | invariantBroken _ details => details
  | unrenderable kind => [("node_type", .str kind)]
  | engineRefused engine => engineDetails engine
  | environmentUnparsable _ | pathHidden .. | callBroken _ | conversion _ | unspelled _ => []

def source? : Failure → Option String
  | inputNotFound source | inputUnreadable source _ | openFailed source _ | scriptFailed source _
  | recreateFailed _ _ source _ | fetchFailed source _ _ => some source
  | _ => none

def object? : Failure → Option String
  | recreateFailed _ name _ _ => some name
  | fetchFailed _ _ object => object
  | _ => none

def headline (f : Failure) : String :=
  let code := f.code?.elim "" fun code => s!"[{code}] "
  code ++ f.name ++ ": " ++ f.message

end Failure

end RecordLoom
