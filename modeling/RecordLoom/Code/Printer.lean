import RecordLoom.Code.Buffer
import RecordLoom.Code.Spelling
import RecordLoom.Code.Style
import RecordLoom.Failure
import RecordLoom.Number.Reading
import RecordLoom.Number.Shortest
import RecordLoom.Text.Template

/-!
Prints types, expressions and statements.  The text depends on the tree, the layout and the spelling
only, and items come out in the order in which the tree has them.  A node in a place where it has no
text makes the printing fail with the name of its class; so do an integer that is too long for a
text, and a comparison or a kind of type for which the spelling has no word.
-/

namespace RecordLoom.Code

structure Printer where
  style : Style
  spelling : Spelling

abbrev Printed (α : Type) := Except Failure α

def spelled (meaning : String) : Option String → Printed String
  | some word => pure word
  | none => .error (.unspelled meaning)

namespace Printer

variable (p : Printer)

def indent (level : Nat) : String := String.join (List.replicate level p.style.indent)

/-- A line at a level; an empty line has no indentation. -/
def line (level : Nat) (text : String) (b : Buffer) : Buffer :=
  let b := if text.isEmpty then b else b.append (p.indent level ++ text)
  b.append p.style.eol

def blankLine (b : Buffer) : Buffer := b.append p.style.eol

def lines (level : Nat) (texts : List String) (b : Buffer) : Buffer :=
  texts.foldl (fun b text => p.line level text b) b

def fits (level : Nat) (text : String) : Bool :=
  !Text.contains p.style.eol text &&
    ((p.indent level).length + text.length : Int) ≤ p.style.lineLength

def openBlock (start : String) (b : Buffer) : Buffer := (b.append "\x7b").append start

def closeBlock (level : Nat) (finish : String) (b : Buffer) : Buffer :=
  ((b.ensure p.style.eol).append (p.indent level ++ "\x7d")).append finish

def join (items : List String) : String := p.style.listSeparator.intercalate items

def commaLines : List String → List String
  | [] => []
  | [item] => [item]
  | item :: rest => (item ++ ",") :: commaLines rest

/-- `head(items)tail` on one line if that fits, else with a line for each item. -/
def listText (level : Nat) (head : String) (items : List String) (tail : String) : List String :=
  let single := head ++ "(" ++ p.join items ++ ")" ++ tail
  if items.isEmpty || p.fits level single then [single]
  else (head ++ "(") :: (commaLines items ++ [")" ++ tail])

mutual

def typeText : Node → Printed String
  | .voidType => pure p.spelling.voidType
  | .namedType name arguments => do
      let texts ← typeTexts arguments
      pure (if arguments.isEmpty then name else name ++ "<" ++ p.join texts ++ ">")
  | .optionalType wrapped => do
      let text ← typeText wrapped
      let text := if wrapped matches .closureType .. then "(" ++ text ++ ")" else text
      pure (text ++ p.spelling.optionalSuffix)
  | .arrayType element => do
      let text ← typeText element
      pure (Text.fill [("element", text)] p.spelling.arrayType)
  | .qualifiedType base name => do
      let text ← typeText base
      pure (text ++ "." ++ name)
  | .keyPathType root value => do
      let root ← typeText root
      let value ← typeText value
      pure (Text.fill [("root", root), ("value", value)] p.spelling.keyPathType)
  | .closureType parameters returns throws escaping => do
      let result ← typeText returns
      let texts ← typeTexts parameters
      let start := if escaping then p.spelling.escapingAttribute ++ " " else ""
      let effect := if throws then p.spelling.throwsKeyword ++ " " else ""
      let brackets := if texts.isEmpty then "()" else "( " ++ ", ".intercalate texts ++ " )"
      pure (start ++ brackets ++ " " ++ effect ++ p.spelling.returnArrow ++ " " ++ result)
  | node => .error (.unrenderable node.kindName)

def typeTexts : List Node → Printed (List String)
  | [] => pure []
  | type :: rest => do
      let text ← typeText type
      let texts ← typeTexts rest
      pure (text :: texts)

end

def constraintText (c : GenericConstraint) : Printed String := do
  let text ← p.typeText c.type
  pure (c.parameter ++ (if c.sameType then " == " else ": ") ++ text)

def escapeChar : Char → List Char
  | '\\' => ['\\', '\\']
  | '"' => ['\\', '"']
  | '\n' => ['\\', 'n']
  | '\r' => ['\\', 'r']
  | '\t' => ['\\', 't']
  | c => [c]

/-- A text between double quotes, with escapes for quotes, backslashes and line ends. -/
def stringText (s : String) : String := .ofList ('"' :: s.toList.flatMap escapeChar ++ ['"'])

def intText (n : Int) : Printed String :=
  if Number.isLong n then .error (.conversion .tooManyDigits) else pure (toString n)

def arrayText (items : List String) : String :=
  if items.isEmpty then "[]" else "[ " ++ ", ".intercalate items ++ " ]"

def doubleText (x : Number.Double) : String :=
  if x.isNaN then p.spelling.nanLiteral
  else if x.isInfinite then (if x.isNegative then "-" else "") ++ p.spelling.infinityLiteral
  else x.text

def literalText : Node → Printed String
  | .nilLiteral => pure p.spelling.nilLiteral
  | .boolLiteral value => pure (if value then p.spelling.trueLiteral else p.spelling.falseLiteral)
  | .intLiteral value => intText value
  | .doubleLiteral value => pure (p.doubleText value)
  | .stringLiteral value => pure (stringText value)
  | .intArrayLiteral values => do
      let texts ← values.mapM intText
      pure (arrayText texts)
  | .dataLiteral bytes =>
      let values := bytes.map fun byte => toString byte.toNat
      pure (Text.fill [("bytes", arrayText values)] p.spelling.dataLiteral)
  | node => .error (.unrenderable node.kindName)

def closureHead (parameters : List String) : String :=
  if parameters.isEmpty then p.style.eol
  else " ( " ++ p.join parameters ++ " ) " ++ p.spelling.closureInKeyword ++ p.style.eol

def callName (name : String) : String :=
  if name == p.spelling.initializerName then name else p.spelling.identifier name

def callMarks (tries awaits : Bool) : String :=
  (if tries then p.spelling.tryKeyword ++ " " else "") ++
    if awaits then p.spelling.awaitKeyword ++ " " else ""

/-- Appends a call without its trailing closure. -/
def writeArguments (level : Nat) (head : String) (arguments : List String) (b : Buffer) : Buffer :=
  match p.listText level head arguments "" with
  | [single] => b.append single
  | texts =>
      let b := b.append (texts.head?.getD "" ++ p.style.eol)
      let b := p.lines (level + 1) (texts.drop 1).dropLast b
      b.append (p.indent level ++ ")")

def labeled (label : Option String) (text : String) : String :=
  match label with
  | some label =>
      if label.isEmpty then text else p.spelling.argumentLabel label ++ ": " ++ text
  | none => text

mutual

def writeExpression (level : Nat) : Node → Buffer → Printed Buffer
  | .variableRef name, b => pure (b.append (p.spelling.identifier name))
  | .selfRef, b => pure (b.append p.spelling.selfKeyword)
  | .member base name, b => do
      let inner ← writeExpression level base .empty
      pure (b.append (inner.text ++ "." ++ p.spelling.identifier name))
  | .keyPath property root, b => do
      let root ← match root with
        | some type => p.typeText type
        | none => pure ""
      pure (b.append (p.spelling.keyPathMark ++ root ++ "." ++ p.spelling.identifier property))
  | .typeExpression type, b => do
      let text ← p.typeText type
      pure (b.append (text ++ p.spelling.metatypeSuffix))
  | .call call, b => writeCall level call b
  | .closure parameters body, b => do
      let start := Buffer.empty |> openBlock (p.closureHead parameters)
      let inner ← writeStatements (level + 1) body start
      pure (b.append (p.closeBlock level "" inner).text)
  | .arrayExpression elements, b => do
      let texts ← expressionTexts level elements
      pure (b.append (arrayText texts))
  | .compare lhs comparison rhs, b => do
      let operator ← spelled comparison.name (p.spelling.operator? comparison)
      let left ← writeExpression level lhs .empty
      let right ← writeExpression level rhs .empty
      pure (b.append (left.text ++ " " ++ operator ++ " " ++ right.text))
  | .rawExpression text, b => pure (b.append text)
  | node, b => do
      let text ← p.literalText node
      pure (b.append text)

def expressionTexts (level : Nat) : List Node → Printed (List String)
  | [] => pure []
  | node :: rest => do
      let inner ← writeExpression level node .empty
      let texts ← expressionTexts level rest
      pure (inner.text :: texts)

def argumentTexts (level : Nat) : List Argument → Printed (List String)
  | [] => pure []
  | .mk label value :: rest => do
      let inner ← writeExpression level value .empty
      let texts ← argumentTexts level rest
      pure (p.labeled label inner.text :: texts)

def baseText (level : Nat) : Option Node → Printed String
  | none => pure ""
  | some base => do
      let inner ← writeExpression level base .empty
      pure (inner.text ++ ".")

def writeTrailing (level : Nat) : Option Trailing → Buffer → Printed Buffer
  | none, b => pure b
  | some (.mk parameters body), b => do
      let start := (b.ensure " ") |> openBlock (p.closureHead parameters)
      let inner ← writeStatements (level + 1) body start
      pure (p.closeBlock level p.style.eol inner)

def writeCall (level : Nat) : Invocation → Buffer → Printed Buffer
  | .mk name arguments base tries awaits trailing, b => do
      let base ← baseText level base
      let texts ← argumentTexts level arguments
      let head := p.callMarks tries awaits ++ base ++ p.callName name
      writeTrailing level trailing (p.writeArguments level head texts b)

def writeStatement (level : Nat) : Node → Buffer → Printed Buffer
  | .rawStatement text, b => pure (p.lines level (Text.lines text) b)
  | .group statements, b => writeStatements level statements b
  | .variableDecl name value type mutable, b => do
      let keyword := if mutable then p.spelling.variableKeyword else p.spelling.constantKeyword
      let b := b.append (p.indent level ++ keyword ++ " " ++ p.spelling.identifier name)
      let b ← match type with
        | some type => do
            let text ← p.typeText type
            pure (b.append (p.style.typeSeparator ++ text))
        | none => pure b
      let b ← writeExpression level value (b.append p.style.valueSeparator)
      pure (b.ensure p.style.eol)
  | .assignment target value, b => do
      let left ← writeExpression level target .empty
      let b := b.append (p.indent level ++ left.text ++ p.style.valueSeparator)
      let b ← writeExpression level value b
      pure (b.ensure p.style.eol)
  | .callStatement call, b => do
      let b ← writeCall level call (b.append (p.indent level))
      pure (b.ensure p.style.eol)
  | .ret none, b =>
      pure ((b.append (p.indent level ++ p.spelling.returnKeyword)).ensure p.style.eol)
  | .ret (some value), b => do
      let b := (b.append (p.indent level ++ p.spelling.returnKeyword)).append " "
      let b ← writeExpression level value b
      pure (b.ensure p.style.eol)
  | .conditional [] _, _ => .error (.invariantBroken "conditional without branches" [])
  | .conditional branches otherwise, b => do
      let b ← writeBranches level p.spelling.ifKeyword branches b
      match otherwise with
      | [] => pure b
      | statements => do
          let start := (b.append (p.indent level ++ p.spelling.elseKeyword)).ensure " "
          let inner ← writeStatements (level + 1) statements (openBlock p.style.eol start)
          pure (p.closeBlock level p.style.eol inner)
  | node, _ => .error (.unrenderable node.kindName)

def writeBranches (level : Nat) (keyword : String) : List Branch → Buffer → Printed Buffer
  | [], b => pure b
  | .mk condition body :: rest, b => do
      let test ← writeExpression level condition .empty
      let start := (b.append (p.indent level ++ keyword ++ " " ++ test.text)).ensure " "
      let inner ← writeStatements (level + 1) body (openBlock p.style.eol start)
      let next := p.spelling.elseKeyword ++ " " ++ p.spelling.ifKeyword
      writeBranches level next rest (p.closeBlock level p.style.eol inner)

def writeStatements (level : Nat) : List Node → Buffer → Printed Buffer
  | [], b => pure b
  | statement :: rest, b => do
      let b ← writeStatement level statement b
      writeStatements level rest b

end

def expressionText (level : Nat) (node : Node) : Printed String :=
  (p.writeExpression level node .empty).map Buffer.text

/-- The value that a body returns, if it does nothing else and that may be said without the word. -/
def impliedReturn? : List Node → Option Node
  | [.ret (some value)] => if p.spelling.implicitReturn then some value else none
  | _ => none

/-- Appends the statements of a body, or the value alone if that is all it returns. -/
def writeBody (level : Nat) (body : List Node) (b : Buffer) : Printed Buffer :=
  match p.impliedReturn? body with
  | some value => do
      let b ← p.writeExpression level value (b.append (p.indent level))
      pure (b.ensure p.style.eol)
  | none => p.writeStatements level body b

end Printer

end RecordLoom.Code
