import RecordLoom.Journal.Event

/-!
Where a journal is written: a level for all, and outputs with levels of their own.
-/

namespace RecordLoom.Journal

inductive Format where
  | json
  | console
  deriving DecidableEq, Repr

namespace Format

def all : List Format := [json, console]

def name : Format → String
  | json => "json"
  | console => "console"

end Format

structure Output where
  format : Format
  destination : String
  /-- Without a level of its own an output has that of the journal. -/
  level : Option Level
  deriving DecidableEq, Repr

def Output.default : Output := ⟨.console, "stderr", none⟩

structure Config where
  level : Level
  outputs : List Output
  deriving DecidableEq, Repr

def Config.default : Config := ⟨.warning, [.default]⟩

end RecordLoom.Journal
