import RecordLoom.Text.Case

/-!
Foreign keys, one column of a constraint at a time.
-/

namespace RecordLoom.Catalog

inductive ReferentialAction where
  | noAction
  | cascade
  | restrict
  | setNull
  | setDefault
  deriving DecidableEq, Repr

namespace ReferentialAction

def spellings : List (String × ReferentialAction) :=
  [("NO ACTION", noAction), ("CASCADE", cascade), ("RESTRICT", restrict), ("SET NULL", setNull),
   ("SET DEFAULT", setDefault)]

def name : ReferentialAction → String
  | noAction => "NO ACTION"
  | cascade => "CASCADE"
  | restrict => "RESTRICT"
  | setNull => "SET NULL"
  | setDefault => "SET DEFAULT"

def parse (text : Option String) : ReferentialAction :=
  (text.bind fun text => spellings.lookup (Text.upper text)).getD noAction

end ReferentialAction

inductive MatchRule where
  | none
  | simple
  | partially
  | full
  deriving DecidableEq, Repr

namespace MatchRule

def spellings : List (String × MatchRule) :=
  [("NONE", none), ("SIMPLE", simple), ("PARTIAL", partially), ("FULL", full)]

def name : MatchRule → String
  | none => "NONE"
  | simple => "SIMPLE"
  | partially => "PARTIAL"
  | full => "FULL"

def parse (text : Option String) : MatchRule :=
  (text.bind fun text => spellings.lookup (Text.upper text)).getD none

end MatchRule

structure ForeignKey where
  id : Int
  seq : Int
  column : String
  table : String
  /-- The referenced column; a constraint that names none refers to a column of the same name. -/
  referenced : String
  onUpdate : ReferentialAction
  onDelete : ReferentialAction
  matching : MatchRule
  deriving DecidableEq, Repr

namespace ForeignKey

/-- The column to look for in the referenced table. -/
def target (key : ForeignKey) : String :=
  if key.referenced.isEmpty then key.column else key.referenced

end ForeignKey

end RecordLoom.Catalog
