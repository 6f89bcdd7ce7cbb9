/-!
What a generated unit holds.
-/

namespace RecordLoom.Record

structure Output where
  header : Option String
  imports : List String
  reexports : List String
  isPublic : Bool
  accessors : Bool
  deriving DecidableEq, Repr

def Output.default : Output where
  header := some "Generated by schemaforge. Do not edit."
  imports := ["Foundation"]
  reexports := []
  isPublic := true
  accessors := true

end RecordLoom.Record
