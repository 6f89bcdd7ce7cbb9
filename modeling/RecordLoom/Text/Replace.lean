/-!
Search and replacement of one text inside another.
-/

namespace RecordLoom.Text

/--
Replaces the occurrences of a non-empty pattern from left to right, none overlapping.  `skip`
characters belong to an occurrence that was already replaced.
-/
def replaceFrom (pattern image : List Char) : Nat → List Char → List Char
  | _, [] => []
  | skip + 1, _ :: rest => replaceFrom pattern image skip rest
  | 0, c :: rest =>
      if pattern.isPrefixOf (c :: rest) then
        image ++ replaceFrom pattern image (pattern.length - 1) rest
      else
        c :: replaceFrom pattern image 0 rest

/-- The empty pattern occurs before every character and at the end. -/
def replaceChars (pattern image cs : List Char) : List Char :=
  if pattern.isEmpty then image ++ cs.flatMap (· :: image)
  else replaceFrom pattern image 0 cs

def replace (pattern image s : String) : String :=
  .ofList (replaceChars pattern.toList image.toList s.toList)

def containsChars (pattern : List Char) : List Char → Bool
  | [] => pattern.isEmpty
  | c :: rest => pattern.isPrefixOf (c :: rest) || containsChars pattern rest

def contains (pattern s : String) : Bool := containsChars pattern.toList s.toList

def startsWith (s start : String) : Bool := start.toList.isPrefixOf s.toList

def endsWith (s finish : String) : Bool := finish.toList.isSuffixOf s.toList

def dropLast (s : String) (count : Nat) : String :=
  .ofList (s.toList.take (s.length - count))

def splitFrom (separator part : List Char) : Nat → List Char → List (List Char)
  | _, [] => [part.reverse]
  | skip + 1, _ :: rest => splitFrom separator part skip rest
  | 0, c :: rest =>
      if separator.isPrefixOf (c :: rest) then
        part.reverse :: splitFrom separator [] (separator.length - 1) rest
      else
        splitFrom separator (c :: part) 0 rest

def splitAt (separator s : String) : List String :=
  (splitFrom separator.toList [] 0 s.toList).map .ofList

def lines (s : String) : List String := (s.toList.splitOn '\n').map .ofList

end RecordLoom.Text
