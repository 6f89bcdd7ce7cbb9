import RecordLoom.Text.Replace

/-!
Text under construction.  It is kept as the pieces that were appended, so that a look at its end
sees the last piece only.
-/

namespace RecordLoom.Code

structure Buffer where
  /-- No piece is empty; the latest comes first. -/
  pieces : List String
  deriving DecidableEq, Repr

namespace Buffer

def empty : Buffer := ⟨[]⟩

def append (b : Buffer) (text : String) : Buffer :=
  if text.isEmpty then b else ⟨text :: b.pieces⟩

def isEmpty (b : Buffer) : Bool := b.pieces.isEmpty

def text (b : Buffer) : String := String.join b.pieces.reverse

def endsWith (b : Buffer) (finish : String) : Bool :=
  b.pieces.head?.any fun piece => Text.endsWith piece finish

/-- Appends a text unless the last piece ends with it. -/
def ensure (b : Buffer) (finish : String) : Buffer :=
  if b.endsWith finish then b else b.append finish

end Buffer

end RecordLoom.Code
