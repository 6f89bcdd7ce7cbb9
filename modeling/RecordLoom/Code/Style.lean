/-!
Layout of generated text.
-/

namespace RecordLoom.Code

inductive CommentStyle where
  | dashes
  | tripleDashes
  | stars
  | doubleStars
  | none
  deriving DecidableEq, Repr

namespace CommentStyle

def all : List CommentStyle := [dashes, tripleDashes, stars, doubleStars, none]

def name : CommentStyle → String
  | dashes => "//"
  | tripleDashes => "///"
  | stars => "*"
  | doubleStars => "**"
  | none => "none"

end CommentStyle

structure Style where
  indent : String
  eol : String
  lineLength : Int
  typeComment : CommentStyle
  propertyComment : CommentStyle
  functionComment : CommentStyle
  listSeparator : String
  conformanceSeparator : String
  typeSeparator : String
  valueSeparator : String
  neverInline : Bool
  examplesHeader : String
  sqlHeader : String
  deriving DecidableEq, Repr

def Style.default : Style where
  indent := "  "
  eol := "\n"
  lineLength := 80
  typeComment := .doubleStars
  propertyComment := .tripleDashes
  functionComment := .doubleStars
  listSeparator := ", "
  conformanceSeparator := " : "
  typeSeparator := " : "
  valueSeparator := " = "
  neverInline := false
  examplesHeader := "### Examples"
  sqlHeader := "### SQL"

end RecordLoom.Code
