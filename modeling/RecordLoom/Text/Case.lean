import RecordLoom.Text.CaseClass
import RecordLoom.Text.CaseMapping
import RecordLoom.Text.Digit
import RecordLoom.Text.Letter

/-!
Case of whole texts.  A text is mapped character by character, except that a capital sigma which
ends a word becomes the final small sigma.
-/

namespace RecordLoom.Text

/-- Letters, decimal digits and the other characters with a numeric value. -/
def isAlphanumeric (c : Char) : Bool :=
  isLetter c || isDecimalDigit c || covers numericStrides c

def upperChars (cs : List Char) : List Char := cs.flatMap upperOf

def casedFollows : List Char → Bool
  | [] => false
  | c :: rest => if isCaseIgnorable c then casedFollows rest else isCased c

/-- `afterCased` tells whether a cased character precedes, case-ignorable ones passed over. -/
def lowerCharsFrom (afterCased : Bool) : List Char → List Char
  | [] => []
  | c :: rest =>
      let image := if c = 'Σ' && afterCased && !casedFollows rest then ['ς'] else lowerOf c
      image ++ lowerCharsFrom (if isCaseIgnorable c then afterCased else isCased c) rest

def lowerChars (cs : List Char) : List Char := lowerCharsFrom false cs

def upper (s : String) : String := .ofList (upperChars s.toList)

def lower (s : String) : String := .ofList (lowerChars s.toList)

def isAllUpper (cs : List Char) : Bool :=
  cs.any isUpper && !cs.any fun c => isLower c || isTitle c

end RecordLoom.Text
