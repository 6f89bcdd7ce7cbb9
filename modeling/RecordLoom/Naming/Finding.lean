import RecordLoom.Entity.Basic
import RecordLoom.Journal.Event

/-!
What naming finds on its way: the keys that it detects and the problems that it meets.
-/

namespace RecordLoom.Naming

inductive Finding where
  | primaryKey (entity column : String)
  | foreignKey (entity column destination : String)
  | problem (diagnostic : Diagnostic)
  deriving DecidableEq, Repr

namespace Finding

def diagnostic? : Finding → Option Diagnostic
  | problem d => some d
  | _ => none

def event : Finding → Journal.Event
  | primaryKey entity column =>
      .note .debug "primary_key_detected" [("entity", .str entity), ("column", .str column)]
  | foreignKey entity column destination =>
      .note .debug "foreign_key_detected"
        [("entity", .str entity), ("column", .str column), ("destination", .str destination)]
  | problem d =>
      .note (if d.severity = .info then .info else .warning) d.code.name
        [("message", .str d.message), ("entity", d.entity.elim .null .str),
         ("column", d.column.elim .null .str)]

end Finding

end RecordLoom.Naming
