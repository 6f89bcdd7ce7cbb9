import RecordLoom.Text.Case

/-!
Spellings of a name: snake case, camel case and folded runs of capitals.  Every function is total
over arbitrary texts.
-/

namespace RecordLoom.Casing

open RecordLoom.Text

def upperFirstChars : List Char → List Char
  | [] => []
  | c :: rest => upperChars [c] ++ rest

def lowerFirstChars : List Char → List Char
  | [] => []
  | c :: rest => lowerChars [c] ++ rest

def upperFirst (s : String) : String := .ofList (upperFirstChars s.toList)

def lowerFirst (s : String) : String := .ofList (lowerFirstChars s.toList)

def startsWord (previous : Option Char) (c : Char) : Bool :=
  isUpper c && previous.any fun p => !isUpper p && p != '_'

def separateWords (previous : Option Char) : List Char → List Char
  | [] => []
  | c :: rest =>
      if startsWord previous c then '_' :: c :: separateWords (some c) rest
      else c :: separateWords (some c) rest

def snakeChars (lowercase : Bool) (cs : List Char) : List Char :=
  let words := separateWords none cs
  if lowercase then lowerChars words else words

/-- An underscore goes before each capital that starts a word: `personAddressID` becomes
`person_address_id`.  The text is then put into lower case, unless `lowercase` is off. -/
def snakeCase (s : String) (lowercase : Bool := true) : String :=
  .ofList (snakeChars lowercase s.toList)

def isSeparator (c : Char) : Bool := c = '_' || c = ' '

def joinWords (capitalize : Bool) : List Char → List Char
  | [] => []
  | c :: rest =>
      if isSeparator c then joinWords true rest
      else if capitalize && 'a' ≤ c && c ≤ 'z' then c.toUpper :: joinWords false rest
      else c :: joinWords false rest

def camelChars (capitalize : Bool) (cs : List Char) : List Char :=
  cs.takeWhile (· = '_') ++ joinWords capitalize (cs.dropWhile (· = '_'))

/-- Separators vanish and an ASCII letter after them is capitalized; leading underscores stay.
`capitalize` also capitalizes the first word. -/
def camelCase (s : String) (capitalize : Bool := false) : String :=
  .ofList (camelChars capitalize s.toList)

/-- One run of capitals as a word.  A lower-case letter after it claims the last capital. -/
def foldRun (beforeLower : Bool) : List Char → List Char
  | [] => []
  | first :: rest =>
      match rest.getLast? with
      | some last =>
          if beforeLower then first :: (lowerChars rest.dropLast ++ [last])
          else first :: lowerChars rest
      | none => [first]

/-- `run` holds the capitals since the last character of another kind, the latest first. -/
def foldRuns (run : List Char) : List Char → List Char
  | [] => foldRun false run.reverse
  | c :: rest =>
      if isUpper c then foldRuns (c :: run) rest
      else foldRun (isLower c) run.reverse ++ c :: foldRuns [] rest

/-- Every run of capitals becomes one capitalized word: `URLString` becomes `UrlString`. -/
def foldUpperRuns (s : String) : String := .ofList (foldRuns [] s.toList)

def isIdentifierChar (c : Char) : Bool := isAlphanumeric c || c = '_'

def identifierChars (cs : List Char) : List Char :=
  match cs.filter isIdentifierChar with
  | [] => "NoName".toList
  | c :: rest => if isLetter c || c = '_' then c :: rest else '_' :: c :: rest

/-- Drops the characters that no identifier holds; a name left empty becomes `NoName` and one that
starts with a digit gains an underscore. -/
def toIdentifier (s : String) : String := .ofList (identifierChars s.toList)

end RecordLoom.Casing
