import RecordLoom.Settings.Sections

/-!
All settings of a run, section by section.
-/

namespace RecordLoom

structure Settings where
  logging : Journal.Config
  naming : Naming.Options
  render : Code.Style
  output : Record.Output
  deriving DecidableEq, Repr

namespace Settings

def default : Settings := ⟨.default, .default, .default, .default⟩

structure SectionShape where
  name : String
  keys : List (String × Bool)
  deriving DecidableEq, Repr

def shapeOf {Section : Type} (name : String) (fields : List (Field Section)) : SectionShape :=
  ⟨name, fields.map fun field => (field.key, field.isStructured)⟩

def sections (home : String) : List SectionShape :=
  [shapeOf "logging" (loggingFields home), shapeOf "naming" namingFields,
   shapeOf "render" renderFields, shapeOf "output" outputFields]

def readPart {Section : Type} (members : List (String × Json)) (name : String)
    (read : Json → Checked Section) (default : Section) : Checked Section :=
  match members.lookup name with
  | some value => under (.key name) (read value)
  | none => .ok default

def problemsOf {α : Type} : Checked α → List Problem
  | .ok _ => []
  | .error problems => problems

def unknownKeys (home : String) (members : List (String × Json)) : List Problem :=
  let names := (sections home).map (·.name)
  (members.filter fun (key, _) => !names.contains key).map fun (key, value) =>
    ⟨[.key key], "Extra inputs are not permitted", value⟩

/-- Settings from the members of an object.  The problems come in the order of the sections. -/
def read (home : String) (members : List (String × Json)) : Checked Settings := do
  let logging := readPart members "logging" (readLogging home) .default
  let naming := readPart members "naming" readNaming .default
  let render := readPart members "render" readRender .default
  let output := readPart members "output" readOutput .default
  let problems := problemsOf logging ++ problemsOf naming ++ problemsOf render ++
    problemsOf output ++ unknownKeys home members
  if problems.isEmpty then pure ⟨← logging, ← naming, ← render, ← output⟩
  else .error problems

def document (home : String) (s : Settings) : Json :=
  .obj [("logging", writeSection (loggingFields home) s.logging),
    ("naming", writeSection namingFields s.naming), ("render", writeSection renderFields s.render),
    ("output", writeSection outputFields s.output)]

end Settings

end RecordLoom
