/-!
Escape sequences, by which a text tells a terminal how to show what follows.
-/

namespace RecordLoom.Text

def isParameter (c : Char) : Bool := c == ';' || c == '?' || c.isDigit

def sequenceLength? : List Char → Option Nat
  | '\x1b' :: '[' :: rest =>
      match rest.dropWhile isParameter with
      | final :: _ =>
          if final.isAlpha then some ((rest.takeWhile isParameter).length + 3) else none
      | [] => none
  | _ => none

/-- Leaves out escape sequences; `skip` characters belong to one that was met already. -/
def withoutSequencesFrom : Nat → List Char → List Char
  | _, [] => []
  | skip + 1, _ :: rest => withoutSequencesFrom skip rest
  | 0, c :: rest =>
      match sequenceLength? (c :: rest) with
      | some length => withoutSequencesFrom (length - 1) rest
      | none => c :: withoutSequencesFrom 0 rest

def withoutSequences (s : String) : String := .ofList (withoutSequencesFrom 0 s.toList)

end RecordLoom.Text
