import RecordLoom.Json.Basic
import RecordLoom.Number.Shortest
import RecordLoom.Text.Quoted

/-!
JSON values as prose shows them: texts bare on their own and quoted inside lists and maps.
-/

namespace RecordLoom.Json

mutual

def inspect : Json → String
  | null => "None"
  | bool value => if value then "True" else "False"
  | int value => toString value
  | real value => value.text
  | str value => Text.quoted value
  | arr items => "[" ++ ", ".intercalate (inspectItems items) ++ "]"
  | obj members => "\x7b" ++ ", ".intercalate (inspectMembers members) ++ "\x7d"

def inspectItems : List Json → List String
  | [] => []
  | item :: rest => inspect item :: inspectItems rest

def inspectMembers : List (String × Json) → List String
  | [] => []
  | (key, value) :: rest => (Text.quoted key ++ ": " ++ inspect value) :: inspectMembers rest

end

def display : Json → String
  | str value => value
  | value => inspect value

end RecordLoom.Json
