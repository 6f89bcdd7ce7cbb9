import RecordLoom.Journal.Config
import RecordLoom.Json.Display
import RecordLoom.Json.Writer
import RecordLoom.Text.Trim

/-!
What a journal keeps of an event: an object with all that is known of it, or a line.  The time of an
event is not kept.
-/

namespace RecordLoom.Journal

def setMissing (members : List (String × Json)) (member : String × Json) : List (String × Json) :=
  if members.any (·.1 == member.1) then members else members ++ [member]

/-- The failure of an event under keys of its own; details give way to what is there already. -/
def withFailure (members : List (String × Json)) (f : Failure) : List (String × Json) :=
  let known := [("error", .str f.message), ("error_code", .int (f.code?.getD 0)),
    ("error_name", .str f.name)]
  f.details.foldl setMissing (Json.ofMembers (members ++ known))

def runIdMember (runId : Option String) : List (String × Json) :=
  match runId with
  | some id => if id.isEmpty then [] else [("run_id", .str id)]
  | none => []

def timeKey : String := "timestamp"

/-- All that is known of an event.  What the journal adds replaces fields of the same name. -/
def Event.members (e : Event) (runId : Option String) : List (String × Json) :=
  let own := [("event", .str e.name), ("level", .str e.level.name), (timeKey, .null)]
  let known := Json.ofMembers (e.fields ++ own ++ runIdMember runId)
  let all := match e.error with
    | some f => withFailure known f
    | none => known
  all.filter fun (key, _) => key != timeKey

inductive Record where
  | object (members : List (String × Json))
  | line (text : String)
  deriving Repr, BEq

def headKeys : List String := ["level", "event", "logger", "logger_name"]

def footKeys : List String := ["stack", "exception"]

def needsQuotes (s : String) : Bool :=
  s.toList.any fun c => [' ', '\t', '\r', '\n', '=', '"', '\''].contains c

def fieldText (key : String) (value : Json) : String :=
  key ++ "=" ++ match value with
    | .str s => if needsQuotes s then Text.quoted s else s
    | _ => value.display

def headText (members : List (String × Json)) : String :=
  let bare := fun (key : String) => (members.lookup key).toList.map Json.display
  let bracketed := fun (key : String) => (bare key).map fun shown => "[" ++ shown ++ "]"
  let others := members.filter fun (key, _) => !(headKeys ++ footKeys).contains key
  let fields := (others.mergeSort fun a b => a.1 ≤ b.1).map fun (key, value) => fieldText key value
  let parts := bracketed "level" ++ bare "event" ++ bracketed "logger" ++
    bracketed "logger_name" ++ fields
  let line := " ".intercalate (parts.filter fun part => !part.isEmpty)
  .ofList (Text.dropEnd (· = ' ') line.toList)

def footText (members : List (String × Json)) : String :=
  let values := footKeys.filterMap fun key =>
    (members.lookup key).bind fun value => if value == .null then none else some value.display
  let rule := "\n\n" ++ String.ofList (List.replicate 79 '=') ++ "\n\n"
  if values.isEmpty then "" else "\n" ++ rule.intercalate values

def lineText (members : List (String × Json)) : String := headText members ++ footText members

def Record.ofMembers (format : Format) (members : List (String × Json)) : Record :=
  match format with
  | .json => .object members
  | .console => .line (lineText members)

def Record.text : Record → String
  | .object members => (Json.obj members).compact
  | .line text => text

end RecordLoom.Journal
