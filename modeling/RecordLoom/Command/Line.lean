/-!
Command lines: switches and what stands between them.
-/

namespace RecordLoom.Command

inductive Key where
  | verbose
  | version
  | help
  | output
  | config
  | name
  | json
  deriving DecidableEq, Repr

structure Switch where
  key : Key
  letter : Option Char
  word : String
  takesValue : Bool
  deriving DecidableEq, Repr

structure Line where
  given : List (Key × String)
  operands : List String
  deriving DecidableEq, Repr

namespace Line

def has (line : Line) (key : Key) : Bool := line.given.any (·.1 == key)

/-- The value of a switch; the last one given counts. -/
def value? (line : Line) (key : Key) : Option String := line.given.reverse.lookup key

def addGiven (more : List (Key × String)) (line : Line) : Line :=
  { line with given := more ++ line.given }

def addOperand (operand : String) (line : Line) : Line :=
  { line with operands := operand :: line.operands }

end Line

abbrev Step := List (Key × String) × Option Key

/-- A switch by its word; what follows an equals sign is its value. -/
def readWord (switches : List Switch) (body : List Char) : Option Step := do
  let word := String.ofList (body.takeWhile (· != '='))
  let switch ← switches.find? (·.word == word)
  match body.dropWhile (· != '='), switch.takesValue with
  | _ :: value, true => some ([(switch.key, .ofList value)], none)
  | [], true => some ([], some switch.key)
  | [], false => some ([(switch.key, "")], none)
  | _ :: _, false => none

/-- Switches by their letters; what follows a letter that takes a value is that value. -/
def readLetters (switches : List Switch) : List Char → Option Step
  | [] => some ([], none)
  | letter :: rest => do
      let switch ← switches.find? (·.letter == some letter)
      if switch.takesValue then
        some (if rest.isEmpty then ([], some switch.key) else ([(switch.key, .ofList rest)], none))
      else
        let (given, wanted) ← readLetters switches rest
        some ((switch.key, "") :: given, wanted)

def readSwitch (switches : List Switch) : List Char → Option Step
  | '-' :: '-' :: body => readWord switches body
  | _ :: letters => readLetters switches letters
  | [] => none

def isSwitch (argument : List Char) : Bool := argument.head? == some '-' && 1 < argument.length

/--
Reads a command line, none if it is malformed.  Two hyphens alone end the switches; unless operands
may stand between switches, so does the first operand.  `wanted` is a switch without its value yet.
-/
def readLine (switches : List Switch) (between : Bool) (wanted : Option Key) :
    List String → Option Line
  | [] => if wanted.isSome then none else some ⟨[], []⟩
  | argument :: rest =>
      match wanted with
      | some key =>
          (readLine switches between none rest).map (Line.addGiven [(key, argument)])
      | none =>
          if argument == "--" then some ⟨[], rest⟩
          else if isSwitch argument.toList then do
            let (given, wanted) ← readSwitch switches argument.toList
            (readLine switches between wanted rest).map (Line.addGiven given)
          else if between then
            (readLine switches between none rest).map (Line.addOperand argument)
          else some ⟨[], argument :: rest⟩

end RecordLoom.Command
