import RecordLoom.Text.Blank

/-!
Removal of characters at the ends of a text.
-/

namespace RecordLoom.Text

def dropEnd (drop : Char → Bool) (cs : List Char) : List Char :=
  (cs.reverse.dropWhile drop).reverse

def dropEnds (drop : Char → Bool) (cs : List Char) : List Char :=
  dropEnd drop (cs.dropWhile drop)

def trim (s : String) : String := .ofList (dropEnds isBlank s.toList)

def trimEnd (s : String) : String := .ofList (dropEnd isBlank s.toList)

def trimLineEnds (s : String) : String :=
  .ofList (dropEnds (fun c => c = '\n' || c = '\r') s.toList)

end RecordLoom.Text
