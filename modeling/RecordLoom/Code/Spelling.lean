import RecordLoom.Code.Declaration

/-!
The words and marks of the language that code is printed in.
-/

namespace RecordLoom.Code

structure Spelling where
  reservedWords : List String
  identifierQuote : String
  labelReservedWords : List String
  wildcardLabel : String
  lineComment : String
  importKeyword : String
  reexportKeyword : String
  typeKeywords : List (TypeKind × String)
  visibilityKeywords : List (Visibility × String)
  extensionKeyword : String
  functionKeyword : String
  initializerName : String
  staticKeyword : String
  mutatingKeyword : String
  constantKeyword : String
  variableKeyword : String
  whereKeyword : String
  inlinableAttribute : String
  discardableAttribute : String
  escapingAttribute : String
  asyncKeyword : String
  throwsKeyword : String
  tryKeyword : String
  awaitKeyword : String
  returnArrow : String
  returnKeyword : String
  ifKeyword : String
  elseKeyword : String
  closureInKeyword : String
  /-- A body that only returns a value is the value. -/
  implicitReturn : Bool
  voidType : String
  optionalSuffix : String
  /-- A template over `element`. -/
  arrayType : String
  /-- A template over `root` and `value`. -/
  keyPathType : String
  selfKeyword : String
  metatypeSuffix : String
  keyPathMark : String
  operators : List (Comparison × String)
  nilLiteral : String
  trueLiteral : String
  falseLiteral : String
  /-- A template over `bytes`. -/
  dataLiteral : String
  infinityLiteral : String
  nanLiteral : String
  codeBlockLanguage : String
  deriving DecidableEq, Repr

namespace Spelling

def isReserved (s : Spelling) (name : String) : Bool := s.reservedWords.contains name

def quote (s : Spelling) (name : String) : String := s.identifierQuote ++ name ++ s.identifierQuote

def identifier (s : Spelling) (name : String) : String :=
  if s.isReserved name then s.quote name else name

def argumentLabel (s : Spelling) (label : String) : String :=
  if s.labelReservedWords.contains label then s.quote label else label

def typeKeyword? (s : Spelling) (kind : TypeKind) : Option String := s.typeKeywords.lookup kind

/-- A visibility without a keyword goes without saying. -/
def visibilityKeyword (s : Spelling) (visibility : Visibility) : String :=
  (s.visibilityKeywords.lookup visibility).getD ""

def operator? (s : Spelling) (comparison : Comparison) : Option String :=
  s.operators.lookup comparison

def swiftReservedWords : List String :=
  ["import", "let", "var", "static", "public", "private", "fileprivate", "internal", "open",
   "class", "struct", "extension", "protocol", "enum", "case", "default", "func", "throws",
   "rethrows", "mutating", "nonmutating", "init", "deinit", "inout", "optional", "override", "try",
   "operator", "infix", "subscript", "defer", "break", "fallthrough", "indirect", "lazy", "for",
   "do", "while", "repeat", "continue", "return", "in", "where", "if", "guard", "else", "switch",
   "catch", "throw", "true", "false", "nil", "self", "as", "is", "async", "await", "typealias",
   "associatedtype", "associativity", "dynamic", "convenience", "required", "final", "didSet",
   "willSet", "get", "set", "weak", "unowned"]

def swift : Spelling where
  reservedWords := swiftReservedWords
  identifierQuote := "`"
  labelReservedWords := ["inout", "var", "let"]
  wildcardLabel := "_"
  lineComment := "//"
  importKeyword := "import"
  reexportKeyword := "@_exported import"
  typeKeywords := [(.struct, "struct"), (.enumeration, "enum"), (.classType, "class")]
  visibilityKeywords := [(.isPublic, "public"), (.isInternal, ""), (.isPrivate, "private")]
  extensionKeyword := "extension"
  functionKeyword := "func"
  initializerName := "init"
  staticKeyword := "static"
  mutatingKeyword := "mutating"
  constantKeyword := "let"
  variableKeyword := "var"
  whereKeyword := "where"
  inlinableAttribute := "@inlinable"
  discardableAttribute := "@discardableResult"
  escapingAttribute := "@escaping"
  asyncKeyword := "async"
  throwsKeyword := "throws"
  tryKeyword := "try"
  awaitKeyword := "await"
  returnArrow := "->"
  returnKeyword := "return"
  ifKeyword := "if"
  elseKeyword := "else"
  closureInKeyword := "in"
  implicitReturn := true
  voidType := "Void"
  optionalSuffix := "?"
  arrayType := "[ \x7belement\x7d ]"
  keyPathType := "KeyPath<\x7broot\x7d, \x7bvalue\x7d>"
  selfKeyword := "self"
  metatypeSuffix := ".self"
  keyPathMark := "\\"
  operators :=
    [(.equal, "=="), (.notEqual, "!="), (.lessThan, "<"), (.greaterThanOrEqual, ">=")]
  nilLiteral := "nil"
  trueLiteral := "true"
  falseLiteral := "false"
  dataLiteral := "Data(\x7bbytes\x7d)"
  infinityLiteral := "Double.infinity"
  nanLiteral := "Double.nan"
  codeBlockLanguage := "swift"

end Spelling

end RecordLoom.Code
