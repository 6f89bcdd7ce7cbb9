import RecordLoom.Number.Double

/-!
JSON documents.  Objects keep the order of their members, and a number keeps whether it was written
as an integer or with a fraction or exponent.
-/

namespace RecordLoom

inductive Json where
  | null
  | bool (value : Bool)
  | int (value : Int)
  | real (value : Number.Double)
  | str (value : String)
  | arr (items : List Json)
  | obj (members : List (String × Json))
  deriving Repr, BEq

namespace Json

/-- Sets a key: a known key keeps its place, a new one goes to the end. -/
def insertMember {α : Type} (key : String) (value : α) : List (String × α) → List (String × α)
  | [] => [(key, value)]
  | (k, v) :: rest =>
      if k == key then (k, value) :: rest else (k, v) :: insertMember key value rest

/-- The members in order, a repeated key with its last value at its first place. -/
def ofMembers {α : Type} (members : List (String × α)) : List (String × α) :=
  members.foldl (fun acc (k, v) => insertMember k v acc) []

def get? (key : String) : Json → Option Json
  | obj members => members.lookup key
  | _ => none

end Json

end RecordLoom
