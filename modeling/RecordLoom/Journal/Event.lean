import RecordLoom.Failure

/-!
Events: what a run tells its journal.
-/

namespace RecordLoom.Journal

inductive Level where
  | debug
  | info
  | warning
  | error
  | critical
  deriving DecidableEq, Repr

namespace Level

def all : List Level := [debug, info, warning, error, critical]

def name : Level → String
  | debug => "debug"
  | info => "info"
  | warning => "warning"
  | error => "error"
  | critical => "critical"

def rank : Level → Nat
  | debug => 10
  | info => 20
  | warning => 30
  | error => 40
  | critical => 50

end Level

structure Event where
  level : Level
  name : String
  fields : List (String × Json)
  error : Option Failure := none
  deriving Repr, BEq

def Event.note (level : Level) (name : String) (fields : List (String × Json)) : Event :=
  { level, name, fields }

end RecordLoom.Journal
