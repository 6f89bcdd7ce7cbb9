import RecordLoom.Json.Display
import RecordLoom.Settings.IntegerText
import RecordLoom.Text.Case

/-!
Checked reading of setting values.  Every kind of value reads generously, and a value that it cannot
take becomes a problem at its place.  The problems of all fields are collected, in field order.
-/

namespace RecordLoom.Settings

inductive Step where
  | key (name : String)
  | index (position : Nat)
  deriving DecidableEq, Repr

def Step.text : Step → String
  | key name => name
  | index position => toString position

structure Problem where
  place : List Step
  message : String
  input : Json
  deriving Repr, BEq

abbrev Checked (α : Type) := Except (List Problem) α

def reject {α : Type} (input : Json) (message : String) : Checked α :=
  .error [⟨[], message, input⟩]

def under {α : Type} (step : Step) (result : Checked α) : Checked α :=
  result.mapError fun problems => problems.map fun p => { p with place := step :: p.place }

def collect {α : Type} : List (Checked α) → Checked (List α)
  | [] => .ok []
  | first :: rest =>
      match first, collect rest with
      | .ok value, .ok values => .ok (value :: values)
      | .ok _, .error problems => .error problems
      | .error problems, .ok _ => .error problems
      | .error problems, .error more => .error (problems ++ more)

/-- A kind of setting values. -/
structure Kind (α : Type) where
  read : Json → Checked α
  write : α → Json
  /-- In an environment variable such a value is JSON text. -/
  isStructured : Bool

namespace Kind

def text : Kind String where
  read
    | .str s => .ok s
    | input => reject input "Input should be a valid string"
  write := .str
  isStructured := false

def optional {α : Type} (kind : Kind α) : Kind (Option α) where
  read
    | .null => .ok none
    | input => (kind.read input).map some
  write value := value.elim .null kind.write
  isStructured := false

def flagWords : List (String × Bool) :=
  [("true", true), ("t", true), ("yes", true), ("y", true), ("on", true), ("1", true),
   ("false", false), ("f", false), ("no", false), ("n", false), ("off", false), ("0", false)]

def isMachineSize (n : Int) : Bool := n.natAbs < Number.twoTo 63

def flagText : String := "Input should be a valid boolean"

def readFlagNumber (input : Json) (n : Int) : Checked Bool :=
  if n = 0 then .ok false
  else if n = 1 then .ok true
  else if isMachineSize n then reject input (flagText ++ ", unable to interpret input")
  else reject input flagText

def flag : Kind Bool where
  read
    | .bool b => .ok b
    | .int n => readFlagNumber (.int n) n
    | .real x =>
        match x.toInt? with
        | some n => readFlagNumber (.real x) n
        | none => reject (.real x) flagText
    | .str s =>
        match flagWords.lookup (.ofList (s.toList.map Char.toLower)) with
        | some b => .ok b
        | none => reject (.str s) (flagText ++ ", unable to interpret input")
    | input => reject input flagText
  write := .bool
  isStructured := false

def tooLargeText : String := "Unable to parse input string as an integer, exceeded maximum size"

def integer : Kind Int where
  read
    | .bool b => .ok (if b then 1 else 0)
    | .int n => .ok n
    | .real x =>
        if !x.isFinite then reject (.real x) "Input should be a finite number"
        else
          match x.toInt? with
          | some n => if isMachineSize n then .ok n else reject (.real x) tooLargeText
          | none =>
              reject (.real x)
                "Input should be a valid integer, got a number with a fractional part"
    | .str s =>
        match readIntegerText s with
        | .value n => .ok n
        | .tooLong => reject (.str s) tooLargeText
        | .notNumeric =>
            reject (.str s) "Input should be a valid integer, unable to parse string as an integer"
    | input => reject input "Input should be a valid integer"
  write := .int
  isStructured := false

def list {α : Type} (kind : Kind α) : Kind (List α) where
  read
    | .arr items =>
        collect (items.zipIdx.map fun (item, i) => under (.index i) (kind.read item))
    | input => reject input "Input should be a valid list"
  write items := .arr (items.map kind.write)
  isStructured := true

def map {α : Type} (kind : Kind α) : Kind (List (String × α)) where
  read
    | .obj members =>
        collect (members.map fun (key, value) =>
          (under (.key key) (kind.read value)).map (key, ·))
    | input => reject input "Input should be a valid dictionary"
  write members := .obj (members.map fun (key, value) => (key, kind.write value))
  isStructured := true

def listWords : List String → String
  | [] => ""
  | [word] => "'" ++ word ++ "'"
  | [first, last] => "'" ++ first ++ "' or '" ++ last ++ "'"
  | word :: rest => "'" ++ word ++ "', " ++ listWords rest

def choice {α : Type} (name : α → String) (choices : List α) : Kind α where
  read input :=
    let found := match input with
      | .str s => choices.find? (name · == s)
      | _ => none
    match found with
    | some value => .ok value
    | none => reject input ("Input should be " ++ listWords (choices.map name))
  write value := .str (name value)
  isStructured := false

/-- A kind whose values also pass a test, which may change them or say what is wrong. -/
def refine {α : Type} (kind : Kind α) (test : α → Except String α) : Kind α :=
  { kind with
    read := fun input => do
      let value ← kind.read input
      match test value with
      | .ok value => .ok value
      | .error reason => reject input ("Value error, " ++ reason) }

end Kind

/-- A field of a section: its key, and how its value gets into the section and out of it. -/
structure Field (Section : Type) where
  key : String
  read : Json → Checked (Section → Section)
  write : Section → Json
  isStructured : Bool

def Field.of {Section α : Type} (key : String) (kind : Kind α) (get : Section → α)
    (set : Section → α → Section) : Field Section where
  key := key
  read input := (kind.read input).map fun value old => set old value
  write old := kind.write (get old)
  isStructured := kind.isStructured

/-- A section over its default, from an object.  Keys that no field has are ignored. -/
def readSection {Section : Type} (model : String) (fields : List (Field Section))
    (default : Section) : Json → Checked Section
  | .obj members =>
      let changes := fields.filterMap fun field =>
        (members.lookup field.key).map fun value => under (.key field.key) (field.read value)
      (collect changes).map fun changes => changes.foldl (fun old change => change old) default
  | input => reject input ("Input should be a valid dictionary or instance of " ++ model)

def writeSection {Section : Type} (fields : List (Field Section)) (value : Section) : Json :=
  .obj (fields.map fun field => (field.key, field.write value))

end RecordLoom.Settings
