import RecordLoom.Command.Line
import RecordLoom.Inputs.Path

/-!
How the program is called: its switches, its usage texts, and the paths that a command line names.
-/

namespace RecordLoom.Command

open RecordLoom.Inputs

def helpSwitch : Switch := ⟨.help, none, "help", false⟩

def groupSwitches : List Switch :=
  [⟨.verbose, some 'v', "verbose", false⟩, ⟨.version, none, "version", false⟩, helpSwitch]

def sharedSwitches : List Switch :=
  [⟨.config, none, "config", true⟩, ⟨.name, none, "name", true⟩, helpSwitch]

def generateSwitches : List Switch := ⟨.output, some 'o', "output", true⟩ :: sharedSwitches

def inspectSwitches : List Switch := ⟨.json, none, "json", false⟩ :: sharedSwitches

def switchesOf (command : String) : List Switch :=
  match command with
  | "generate" => generateSwitches
  | "inspect" => inspectSwitches
  | _ => []

def versionText : String := "schemaforge, version 0.1.0\n"

def groupHelp : String := "Usage: schemaforge [-v] (generate | inspect) ...\n"

def generateHelp : String :=
  "Usage: schemaforge generate [-o FILE] [--config FILE] [--name NAME] INPUT...\n"

def inspectHelp : String :=
  "Usage: schemaforge inspect [--config FILE] [--name NAME] [--json] INPUT...\n"

def Line.paths (line : Line) : List Path :=
  (line.operands ++ ([Key.config, .output].filterMap line.value?)).map .ofString

def namedPaths (arguments : List String) : List Path :=
  match readLine groupSwitches false none arguments with
  | some ⟨_, command :: arguments⟩ =>
      ((readLine (switchesOf command) true none arguments).map Line.paths).getD []
  | _ => []

end RecordLoom.Command
