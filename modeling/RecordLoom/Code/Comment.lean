import RecordLoom.Code.Printer
import RecordLoom.Text.Trim

/-!
Documentation comments: the lines that a comment says, and the marks around them.
-/

namespace RecordLoom.Code

/-- The marks of a comment: a first line, the start of each line, and a last line. -/
structure CommentMarks where
  opener : Option String
  start : String
  closer : Option String

def CommentStyle.marks? : CommentStyle → Option CommentMarks
  | dashes => some ⟨Option.none, "// ", Option.none⟩
  | tripleDashes => some ⟨Option.none, "/// ", Option.none⟩
  | stars => some ⟨some "/*", " * ", some " */"⟩
  | doubleStars => some ⟨some "/**", " * ", some " */"⟩
  | none => Option.none

/-- A block of code in prose, nothing for code that is blank but for line ends. -/
def codeBlock (code : String) (language : String) : List String :=
  let code := Text.trimLineEnds code
  if code.isEmpty then [] else ("```" ++ language) :: (Text.lines code ++ ["```"])

/-- A text of several lines after an empty one; none and the empty text say nothing. -/
def paragraph (text : Option String) : List String :=
  match text with
  | some text => if text.isEmpty then [] else "" :: Text.lines text
  | none => []

def nonEmpty? (text : Option String) : Option String := text.filter fun text => !text.isEmpty

namespace FunctionComment

def returnLines (c : FunctionComment) : List String :=
  ((nonEmpty? c.throwsInfo).map ("- Throws: " ++ ·)).toList ++
    ((nonEmpty? c.returnInfo).map ("- Returns: " ++ ·)).toList

def parameterLines (c : FunctionComment) : List String :=
  if c.parameters.isEmpty then (if c.returnLines.isEmpty then [] else [""])
  else "" :: "- Parameters:" :: c.parameters.map fun d => "  - " ++ d.name ++ ": " ++ d.info

def sampleLines (c : FunctionComment) (language : String) : List String :=
  match codeBlock (c.sample.getD "") language with
  | [] => []
  | block => "" :: "Example:" :: block

def lines (c : FunctionComment) (language : String) : List String :=
  c.headline :: paragraph c.info ++ c.sampleLines language ++ c.parameterLines ++ c.returnLines

end FunctionComment

def CodeExample.lines (e : CodeExample) (language : String) : List String :=
  "" :: e.headline :: codeBlock e.code ((nonEmpty? e.language).getD language)

namespace TypeComment

def exampleLines (c : TypeComment) (header language : String) : List String :=
  match c.examples with
  | [] => []
  | [only] => only.lines language
  | several => "" :: Text.lines header ++ several.flatMap (·.lines language)

def sqlLines (c : TypeComment) (header : String) : List String :=
  if c.sql.isEmpty then [] else "" :: Text.lines header ++ c.sql.flatMap (·.lines "sql")

def lines (c : TypeComment) (style : Style) (language : String) : List String :=
  c.headline :: paragraph c.info ++ c.exampleLines style.examplesHeader language ++
    c.sqlLines style.sqlHeader

end TypeComment

namespace Printer

variable (p : Printer)

/-- An empty line keeps the mark without the blanks after it. -/
def markedLine (start text : String) : String :=
  if text.isEmpty then Text.trimEnd start else start ++ text

def writeComment (level : Nat) (style : CommentStyle) (texts : List String) (b : Buffer) : Buffer :=
  match style.marks?, texts with
  | none, _ | _, [] => b
  | some marks, texts =>
      p.lines level (marks.opener.toList ++ texts.map (markedLine marks.start) ++
        marks.closer.toList) b

def writePropertyComment (level : Nat) (text : Option String) (b : Buffer) : Buffer :=
  match nonEmpty? text with
  | some text => p.writeComment level p.style.propertyComment (Text.lines text) b
  | none => b

def writeFunctionComment (level : Nat) (c : FunctionComment) (b : Buffer) : Buffer :=
  p.writeComment level p.style.functionComment (c.lines p.spelling.codeBlockLanguage) b

def writeTypeComment (level : Nat) (c : TypeComment) (b : Buffer) : Buffer :=
  p.writeComment level p.style.typeComment (c.lines p.style p.spelling.codeBlockLanguage) b

end Printer

end RecordLoom.Code
