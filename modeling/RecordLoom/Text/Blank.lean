import RecordLoom.Text.Stride

/-!
White space: the characters of bidirectional class WS, B or S, or of category Zs.
-/

namespace RecordLoom.Text

def blankStrides : List Stride :=
  [⟨9, 13, 1⟩, ⟨28, 32, 1⟩, ⟨133, 133, 1⟩, ⟨160, 160, 1⟩, ⟨5760, 5760, 1⟩, ⟨8192, 8202, 1⟩,
   ⟨8232, 8233, 1⟩, ⟨8239, 8239, 1⟩, ⟨8287, 8287, 1⟩, ⟨12288, 12288, 1⟩]

def isBlank (c : Char) : Bool := covers blankStrides c

end RecordLoom.Text
