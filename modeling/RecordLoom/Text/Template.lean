/-!
Templates: text with names in curly brackets that stand for values.  A bracket written twice stands
for itself, and an inserted value is not looked through again.
-/

namespace RecordLoom.Text

def openBracket : Char := '\x7b'

def closeBracket : Char := '\x7d'

/-- The value of a name; an unknown one stays as it is written. -/
def placeholder (values : List (String × String)) (name : List Char) : List Char :=
  match values.lookup (.ofList name) with
  | some value => value.toList
  | none => openBracket :: name ++ [closeBracket]

/-- `name` holds the characters since an opening bracket, the latest first. -/
def fillFrom (values : List (String × String)) : Option (List Char) → List Char → List Char
  | none, [] => []
  | some name, [] => openBracket :: name.reverse
  | none, [c] => [c]
  | none, c :: d :: rest =>
      if c = d && (c = openBracket || c = closeBracket) then c :: fillFrom values none rest
      else if c = openBracket then fillFrom values (some []) (d :: rest)
      else c :: fillFrom values none (d :: rest)
  | some name, c :: rest =>
      if c = closeBracket then placeholder values name.reverse ++ fillFrom values none rest
      else fillFrom values (some (c :: name)) rest

def fill (values : List (String × String)) (template : String) : String :=
  .ofList (fillFrom values none template.toList)

end RecordLoom.Text
