import RecordLoom.Journal.Console
import RecordLoom.Journal.Record
import RecordLoom.Journal.RunId

/-!
A journal at work: how it is set up, the current run id, and what its outputs have received.
-/

namespace RecordLoom

open RecordLoom.Journal

structure Journal where
  config : Option Config
  runIds : RunIds
  suppressed : Bool
  written : List (String × List Record)
  deriving Repr, BEq

namespace Journal

inductive Action where
  | configure (config : Config)
  | log (event : Event)
  | scope (action : ScopeAction)
  | block (action : BlockAction)
  deriving Repr, BEq

def idle : Journal := ⟨none, .empty, false, []⟩

def isStream (destination : String) : Bool := destination == "stderr" || destination == "stdout"

/-- A destination that was set up before keeps what it has received. -/
def openDestination (written : List (String × List Record)) (destination : String) :
    List (String × List Record) :=
  if written.any (·.1 == destination) then written else written ++ [(destination, [])]

def setUp (j : Journal) (config : Config) : Journal :=
  { j with
    config := some config
    written := (config.outputs.map (·.destination)).foldl openDestination j.written }

def accepts (j : Journal) (config : Config) (level : Level) (output : Output) : Bool :=
  config.level.rank ≤ level.rank && (output.level.getD config.level).rank ≤ level.rank &&
    !(isStream output.destination && j.suppressed)

def appendRecord (destination : String) (record : Record) (written : List (String × List Record)) :
    List (String × List Record) :=
  written.map fun (name, records) =>
    (name, if name == destination then records ++ [record] else records)

def log (j : Journal) (e : Event) : Journal :=
  match j.config with
  | none => j
  | some config =>
      let members := e.members j.runIds.current
      let outputs := config.outputs.filter (j.accepts config e.level)
      { j with
        written := outputs.foldl (fun written output =>
          appendRecord output.destination (.ofMembers output.format members) written) j.written }

def step (j : Journal) : Action → Journal
  | .configure config => j.setUp config
  | .log event => j.log event
  | .scope action => { j with runIds := j.runIds.step action }
  | .block action => { j with suppressed := suppressedAfter action }

def run (j : Journal) (actions : List Action) : Journal := actions.foldl step j

/-- The actions of a run: its events in a scope of their own. -/
def inScope (id : String) (events : List Event) : List Action :=
  .scope (.enter id) :: events.map .log ++ [.scope .leave]

def received (j : Journal) (destination : String) : List Record :=
  (j.written.lookup destination).getD []

end Journal

end RecordLoom
