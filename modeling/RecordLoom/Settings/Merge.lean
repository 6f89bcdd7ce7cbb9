import RecordLoom.Json.Basic

/-!
Merging of settings: objects are merged key by key at every depth, and any other value is replaced.
-/

namespace RecordLoom.Settings

mutual

/-- The value of a key that is set twice: two objects are merged, else the later value counts. -/
def mergeValue (base : Json) : Json → Json
  | .obj members =>
      match base with
      | .obj earlier => .obj (mergeMembers earlier members)
      | _ => .obj members
  | value => value

def mergeMembers (base : List (String × Json)) : List (String × Json) → List (String × Json)
  | [] => base
  | (key, value) :: rest =>
      let merged := match base.lookup key with
        | some earlier => mergeValue earlier value
        | none => value
      mergeMembers (Json.insertMember key merged base) rest

end

end RecordLoom.Settings
