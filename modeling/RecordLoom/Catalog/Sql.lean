import RecordLoom.Text.Blank
import RecordLoom.Text.Case

/-!
The little SQL that the program reads and writes: quoted identifiers, and the operation that an
`INSTEAD OF` trigger stands for.
-/

namespace RecordLoom.Catalog.Sql

open RecordLoom.Text

def quoteChars (cs : List Char) : List Char :=
  '"' :: cs.flatMap (fun c => if c = '"' then ['"', '"'] else [c]) ++ ['"']

/-- A name between double quotes, each quote in it written twice. -/
def quoteIdentifier (name : String) : String := .ofList (quoteChars name.toList)

def isWordChar (c : Char) : Bool := isAlphanumeric c || c = '_'

def foldLetter (c : Char) : Char :=
  if c = 'ſ' then 'S'
  else if c = 'ı' || c = 'İ' then 'I'
  else c.toUpper

def afterWord? : List Char → List Char → Option (List Char)
  | [], cs => some cs
  | _ :: _, [] => none
  | w :: word, c :: rest => if foldLetter c = w then afterWord? word rest else none

def afterBlanks? : List Char → Option (List Char)
  | [] => none
  | c :: rest => if isBlank c then some (rest.dropWhile isBlank) else none

def endsWord : List Char → Bool
  | [] => true
  | c :: _ => !isWordChar c

inductive Operation where
  | insert
  | update
  | delete
  deriving DecidableEq, Repr

namespace Operation

def all : List Operation := [insert, update, delete]

theorem mem_all (operation : Operation) : operation ∈ all := by cases operation <;> decide

def name : Operation → String
  | insert => "INSERT"
  | update => "UPDATE"
  | delete => "DELETE"

end Operation

def isLink (cs : List Char) : Bool :=
  ["OF".toList, "ON".toList].any fun word => (afterWord? word cs).any endsWord

def startsOperation (cs : List Char) (operation : Operation) : Bool :=
  ((afterWord? operation.name.toList cs).bind afterBlanks?).any isLink

/-- The word for the operation, in capitals, of a text that starts with `INSTEAD OF`, the operation,
and `OF` or `ON`. -/
def wordAt? (cs : List Char) : Option String := do
  let rest ← afterBlanks? (← afterWord? "INSTEAD".toList cs)
  let rest ← afterBlanks? (← afterWord? "OF".toList rest)
  let operation ← Operation.all.find? (startsOperation rest)
  pure (.ofList (upperChars (rest.take operation.name.length)))

/-- The word at the first place where an operation is named; `inWord` tells whether a word character
precedes the text. -/
def searchWord? (inWord : Bool) : List Char → Option String
  | [] => none
  | c :: rest =>
      let here := if inWord then none else wordAt? (c :: rest)
      here.orElse fun _ => searchWord? (isWordChar c) rest

def insteadOfWord? (sql : String) : Option String := searchWord? false sql.toList

/-- The operation that an `INSTEAD OF` trigger replaces.  A word with a dotted capital I is found
and is no operation. -/
def insteadOf? (sql : String) : Option Operation :=
  (insteadOfWord? sql).bind fun word => Operation.all.find? (·.name == word)

end RecordLoom.Catalog.Sql
