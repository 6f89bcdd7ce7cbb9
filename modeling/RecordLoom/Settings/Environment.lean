import RecordLoom.Json.Reader
import RecordLoom.Settings.Config
import RecordLoom.Settings.Merge
import RecordLoom.Text.Replace

/-!
Settings from environment variables.  A variable names a section, or a key of one after two
underscores, in any case.  A section, a list and a map are JSON text, any other value is taken as it
is.  More underscores lead to the entries of a map.
-/

namespace RecordLoom.Settings

abbrev Environment := List (String × String)

def Environment.ofBlock (block : String) : Environment :=
  (block.splitOn "\x00").filterMap fun entry =>
    match entry.splitOn "=" with
    | name :: value :: more => some (name, "=".intercalate (value :: more))
    | _ => none

def nameSeparator : String := "__"

def variableStart : String := "schemaforge" ++ nameSeparator

/-- Variables by their names in lower case; of two the later counts. -/
def lowerNames (env : Environment) : Environment :=
  Json.ofMembers (env.map fun (name, value) => (Text.lower name, value))

namespace SectionShape

def variableName (s : SectionShape) : String := variableStart ++ s.name

/-- The keys that a variable leads to inside the section. -/
def keysOf? (s : SectionShape) (name : String) : Option (List String) :=
  let start := s.variableName ++ nameSeparator
  if Text.startsWith name start then
    some (Text.splitAt nameSeparator (.ofList (name.toList.drop start.length)))
  else none

def key? (s : SectionShape) (name : String) : Option (String × Bool) :=
  s.keys.find? fun (key, _) => Text.lower key == Text.lower name

def parseText (s : SectionShape) (text : String) : Except Failure Json :=
  match Json.parse? text with
  | some value => .ok value
  | none => .error (.environmentUnparsable s.name)

def nestedValue (s : SectionShape) (keys : List String) (text : String) : Except Failure Json :=
  match keys with
  | [name] =>
      match s.key? name with
      | some (_, true) => if text.isEmpty then .ok (.str text) else s.parseText text
      | _ => .ok (.str text)
  | _ => .ok (.str text)

/-- Sets the value at a path; what is no object on the way is left alone. -/
def setPath (value : Json) : List String → List (String × Json) → List (String × Json)
  | [], members => members
  | [key], members => Json.insertMember key value members
  | key :: rest, members =>
      match members.lookup key with
      | none => Json.insertMember key (.obj (setPath value rest [])) members
      | some (.obj inner) => Json.insertMember key (.obj (setPath value rest inner)) members
      | some _ => members

def nestedMembers (s : SectionShape) (env : Environment) :
    Except Failure (List (String × Json)) :=
  env.foldlM (fun members (name, text) =>
    match s.keysOf? name with
    | some keys => (s.nestedValue keys text).map fun value => setPath value keys members
    | none => .ok members) []

def spellKeys (s : SectionShape) (members : List (String × Json)) : List (String × Json) :=
  Json.ofMembers (members.map fun (name, value) => (((s.key? name).map (·.1)).getD name, value))

def fromEnvironment (s : SectionShape) (env : Environment) : Except Failure (Option Json) := do
  match env.lookup s.variableName with
  | none => do
      let members ← s.nestedMembers env
      pure (if members.isEmpty then none else some (.obj (s.spellKeys members)))
  | some text => do
      match ← s.parseText text with
      | .obj members => do
          let nested ← s.nestedMembers env
          pure (some (.obj (s.spellKeys (mergeMembers members nested))))
      | .null => pure none
      | value => pure (some value)

end SectionShape

def environmentMembers (home : String) (env : Environment) :
    Except Failure (List (String × Json)) := do
  let env := lowerNames env
  let values ← (sections home).mapM fun s => do
    let value ← s.fromEnvironment env
    pure (value.map (s.name, ·))
  pure (values.filterMap id)

end RecordLoom.Settings
