import RecordLoom.Command.Usage
import RecordLoom.Generation
import RecordLoom.Journal.State
import RecordLoom.Json.Writer
import RecordLoom.Report.Status
import RecordLoom.Report.Overview
import RecordLoom.Settings.Load
import RecordLoom.Text.Terminal

/-!
The commands: `generate` writes the source text for its inputs, `inspect` shows the names that it
would have.  A command that fails writes no file and no text to its output.  What is printed leaves
out escape sequences, since the output is no terminal; a file takes a text as it is.
-/

namespace RecordLoom.Command

open RecordLoom.Catalog
open RecordLoom.Inputs
open RecordLoom.Report

/-- What a command does, as seen from outside. -/
structure Outcome where
  exitCode : Nat
  output : String
  status : List String
  message : Option String
  writes : List (Path × String)
  overviews : List Overview
  deriving DecidableEq, Repr

namespace Outcome

def done : Outcome := ⟨0, "", [], none, [], []⟩

def misuse : Outcome := { done with exitCode := 2 }

def failureMessage (f : Failure) : Option String :=
  if f.isReported then (Text.lines (Text.withoutSequences ("Error: " ++ f.headline))).head?
  else none

def failed (status : List String) (f : Failure) : Outcome :=
  { done with exitCode := 1, status, message := failureMessage f }

end Outcome

structure World (State : Type) where
  sources : Settings.Sources
  engine : Engine State
  /-- The run id for a run that has none. -/
  freshId : String

namespace World

variable {State : Type} (world : World State)

def folder : Folder := world.sources.folder

structure Ended (State : Type) where
  outcome : Outcome
  engine : State
  journal : List Journal.Action

/-- An operand that is an input: something that is seen to exist and is no directory. -/
def isInput (text : String) : Bool :=
  match world.folder.entryNamed? text with
  | some .directory | some (.hidden _) | none => false
  | some _ => true

def isFileName (text : Option String) : Bool :=
  text.all fun text => world.folder.entryNamed? text != some .directory

/-- Whether all operands are inputs and no switch for a file names a directory. -/
def isProper (line : Line) : Bool :=
  !line.operands.isEmpty && line.operands.all world.isInput &&
    world.isFileName (line.value? .config) && world.isFileName (line.value? .output)

def paths (line : Line) : List Path := line.operands.map .ofString

def settings (line : Line) : Except Failure Settings :=
  Settings.load world.sources ((line.value? .config).map .ofString) []

def delivered (g : Generation) (path : Path) (status : List String) : Outcome :=
  if world.folder.isWritable path then
    let warnings := countWarnings g.database.diagnostics
    let summary := countNoun g.database.entities.length "record" none ++
      if warnings == 0 then "" else ", " ++ countNoun warnings "warning" none
    let line := "Wrote " ++ path.toString ++ " (" ++ summary ++ ")"
    { Outcome.done with
      status := status ++ statusLines .success 0 line
      writes := [(path, g.source)] }
  else { Outcome.done with exitCode := 1, status }

def generateOutcome (line : Line) : Except Failure Generation → Outcome
  | .error f => .failed (announceLines 0 "Generating") f
  | .ok g =>
      let status := announceLines 0 "Generating" ++ diagnosticLines g.database.diagnostics
      match line.value? .output with
      | some path => world.delivered g (.ofString path) status
      | none => { Outcome.done with output := Text.withoutSequences g.source, status }

def wantedName (line : Line) : Option String := line.value? .name

def generate (line : Line) (settings : Settings) (state : State) : Ended State :=
  let run := Generation.run world.engine world.folder settings (paths line) (wantedName line)
  let (result, trace) := run (Trace.start state)
  ⟨world.generateOutcome line result, trace.engine, Journal.inScope world.freshId trace.events⟩

def inspectOutcome (line : Line) : Except Failure Database → Outcome
  | .error f => .failed [] f
  | .ok database =>
      if line.has .json then
        let text := (databaseDocument database).pretty ++ "\n"
        { Outcome.done with output := Text.withoutSequences text }
      else
        { Outcome.done with
          status := diagnosticLines database.diagnostics
          overviews := [entityOverview database] }

def inspect (line : Line) (settings : Settings) (state : State) : Ended State :=
  let name := Generation.rawName (wantedName line) (paths line)
  let run := Generation.describe world.engine world.folder settings.naming (paths line) name
  let (result, trace) := run (Trace.start state)
  ⟨inspectOutcome line result, trace.engine, trace.events.map .log⟩

/-- The journal of a command before its settings are known, and of a verbose one throughout. -/
def firstSetup (verbose : Bool) : Journal.Config :=
  ⟨if verbose then .debug else .warning, [.default]⟩

def setups (verbose : Bool) (settings : Settings) : List Journal.Action :=
  if verbose then [] else [.configure settings.logging]

def withSettings (verbose : Bool) (line : Line) (command : Line → Settings → State → Ended State)
    (state : State) : Ended State :=
  if !world.isProper line then ⟨.misuse, state, []⟩
  else
    match world.settings line with
    | .error f => ⟨.failed [] f, state, []⟩
    | .ok settings =>
        let ended := command line settings state
        { ended with journal := setups verbose settings ++ ended.journal }

def withArguments (verbose : Bool) (arguments : List String) (switches : List Switch)
    (help : String) (command : Line → Settings → State → Ended State) (state : State) :
    Ended State :=
  match readLine switches true none arguments with
  | none => ⟨.misuse, state, []⟩
  | some line =>
      if line.has .help then ⟨{ Outcome.done with output := help }, state, []⟩
      else world.withSettings verbose line command state

def command (verbose : Bool) (name : String) (arguments : List String) (state : State) :
    Ended State :=
  match name with
  | "generate" =>
      world.withArguments verbose arguments generateSwitches generateHelp world.generate state
  | "inspect" =>
      world.withArguments verbose arguments inspectSwitches inspectHelp world.inspect state
  | _ => ⟨.misuse, state, []⟩

def askedText? (line : Line) : Option String :=
  line.given.findSome? fun (key, _) =>
    match key with
    | .version => some versionText
    | .help => some groupHelp
    | _ => none

def run (arguments : List String) (state : State) : Ended State :=
  match readLine groupSwitches false none arguments with
  | none => ⟨.misuse, state, []⟩
  | some line =>
      match askedText? line, line.operands with
      | some text, _ => ⟨{ Outcome.done with output := text }, state, []⟩
      | none, [] => ⟨.misuse, state, []⟩
      | none, name :: arguments =>
          let verbose := line.has .verbose
          let ended := world.command verbose name arguments state
          { ended with journal := .configure (firstSetup verbose) :: ended.journal }

end World

end RecordLoom.Command
