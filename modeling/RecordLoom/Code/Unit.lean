import RecordLoom.Code.Comment

/-!
Prints declarations and whole units.
-/

namespace RecordLoom.Code

namespace Printer

variable (p : Printer)

/-- The visibility and a blank; `omitted` leaves out what is public. -/
def visibilityText (visibility : Visibility) (omitted : Bool) : String :=
  let keyword := p.spelling.visibilityKeyword visibility
  if (omitted && visibility == .isPublic) || keyword.isEmpty then "" else keyword ++ " "

def parameterHead (param : Param) : String :=
  let name := p.spelling.identifier param.name
  if param.unlabeled then p.spelling.wildcardLabel ++ " " ++ name
  else
    match param.label with
    | none => name
    | some label =>
        if label == param.name then name else p.spelling.argumentLabel label ++ " " ++ name

def parameterText (level : Nat) (param : Param) : Printed String := do
  let type ← p.typeText param.type
  let head := p.parameterHead param ++ ": " ++ type
  match param.default with
  | none => pure head
  | some value => do
      let text ← p.expressionText level value
      pure (head ++ p.style.valueSeparator ++ text)

def signatureHead (s : Signature) (omitted : Bool) : String :=
  p.visibilityText s.visibility omitted ++
    (if s.isStatic then p.spelling.staticKeyword ++ " " else "") ++
    (if s.isMutating then p.spelling.mutatingKeyword ++ " " else "") ++
    (if s.isInitializer then p.spelling.initializerName
      else p.spelling.functionKeyword ++ " " ++ p.spelling.identifier s.name) ++
    if s.genericParameters.isEmpty then "" else "<" ++ p.join s.genericParameters ++ ">"

def effectText (s : Signature) : Printed String := do
  let result ← match s.returns with
    | .voidType => pure []
    | type => do
        let text ← p.typeText type
        pure [p.spelling.returnArrow ++ " " ++ text]
  let effects := (if s.isAsync then [p.spelling.asyncKeyword] else []) ++
    (if s.throws then [p.spelling.throwsKeyword] else []) ++ result
  pure (if effects.isEmpty then "" else " " ++ " ".intercalate effects)

/-- The list on one line, or on several with the items one level deeper. -/
def writeList (level : Nat) (head : String) (items : List String) (tail : String) (b : Buffer) :
    Buffer :=
  match p.listText level head items tail with
  | [single] => p.line level single b
  | texts =>
      let b := p.lines level (texts.take 1) b
      let b := p.lines (level + 1) (texts.drop 1).dropLast b
      p.line level (")" ++ tail) b

def whereText (constraints : List GenericConstraint) : Printed String := do
  let texts ← constraints.mapM p.constraintText
  pure (p.spelling.whereKeyword ++ " " ++ p.join texts)

def writeSignature (level : Nat) (s : Signature) (omitted : Bool) (b : Buffer) :
    Printed Buffer := do
  let tail ← p.effectText s
  let parameters ← s.parameters.mapM (p.parameterText level)
  let b := p.writeList level (p.signatureHead s omitted) parameters tail b
  if s.genericConstraints.isEmpty then pure b
  else do
    let text ← p.whereText s.genericConstraints
    pure (p.line (level + 1) text b)

def writeInlinable (level : Nat) (inlinable : Bool) (visibility : Visibility) (b : Buffer) :
    Buffer :=
  if inlinable && !p.style.neverInline && visibility == .isPublic then
    p.line level p.spelling.inlinableAttribute b
  else b

def writeFunction (level : Nat) (omitted : Bool) (f : Function) (b : Buffer) : Printed Buffer := do
  let s := f.signature
  let b := f.comment.elim b (p.writeFunctionComment level · b)
  let b := p.writeInlinable level f.inlinable s.visibility b
  let b :=
    if f.discardable && !(s.returns matches .voidType) then
      p.line level p.spelling.discardableAttribute b
    else b
  let b ← p.writeSignature level s omitted b
  -- the bracket stands on a line of its own, so that wrapped signatures stay readable
  let b := openBlock p.style.eol (b.append (p.indent level))
  let b ← p.writeBody (level + 1) f.body b
  pure (p.closeBlock level p.style.eol b)

def optionalTypeText (type : Option Node) : Printed String :=
  match type with
  | none => pure ""
  | some type => (p.typeText type).map (p.style.typeSeparator ++ ·)

def optionalValueText (level : Nat) (value : Option Node) : Printed String :=
  match value with
  | none => pure ""
  | some value => (p.expressionText level value).map (p.style.valueSeparator ++ ·)

def writeVariable (level : Nat) (isStatic : Bool) (v : Variable) (b : Buffer) : Printed Buffer := do
  let b := p.writePropertyComment level v.comment b
  let keyword := if v.constant then p.spelling.constantKeyword else p.spelling.variableKeyword
  let type ← p.optionalTypeText v.type
  let value ← p.optionalValueText level v.value
  let head := p.visibilityText v.visibility false ++
    (if isStatic then p.spelling.staticKeyword ++ " " else "") ++ keyword ++ " " ++
    p.spelling.identifier v.name
  pure (p.line level (head ++ type ++ value) b)

def writeComputed (level : Nat) (c : ComputedProperty) (b : Buffer) : Printed Buffer := do
  let b := p.writePropertyComment level c.comment b
  let b := p.writeInlinable level c.inlinable c.visibility b
  let type ← p.typeText c.type
  let head := p.indent level ++ p.visibilityText c.visibility false ++
    p.spelling.variableKeyword ++ " " ++ p.spelling.identifier c.name ++ p.style.typeSeparator ++
    type
  match p.impliedReturn? c.body with
  | some value => do
      let b ← p.writeExpression level value (b.append (head ++ " \x7b "))
      pure ((b.append " \x7d").append p.style.eol)
  | none => do
      let b := openBlock p.style.eol ((b.append head).ensure " ")
      let b ← p.writeBody (level + 1) c.body b
      pure (p.closeBlock level p.style.eol b)

/-- Appends members after a blank line, with a blank line after each that has a comment. -/
def writeMembers {α : Type} (hasComment : α → Bool) (write : α → Buffer → Printed Buffer)
    (members : List α) (b : Buffer) : Printed Buffer :=
  let rec go (afterComment : Bool) : List α → Buffer → Printed Buffer
    | [], b => pure b
    | m :: rest, b => do
        let b ← write m (if afterComment then p.blankLine b else b)
        go (hasComment m) rest b
  if members.isEmpty then pure b else go false members (p.blankLine b)

def writeFunctions (level : Nat) (omitted : Bool) (functions : List Function) (b : Buffer) :
    Printed Buffer :=
  functions.foldlM (fun b f => p.writeFunction level omitted f (p.blankLine b)) b

def typeHead (d : TypeDef) (omitted : Bool) : Printed String := do
  let keyword ← spelled d.kind.name (p.spelling.typeKeyword? d.kind)
  let texts ← d.conformances.mapM p.typeText
  let head := p.visibilityText d.visibility omitted ++ keyword ++ " " ++
    p.spelling.identifier d.name
  pure (if texts.isEmpty then head else head ++ p.style.conformanceSeparator ++ p.join texts)

def writeOwnMembers (level : Nat) (d : TypeDef) (b : Buffer) : Printed Buffer := do
  let b ← p.writeMembers (·.comment.isSome) (p.writeVariable level true) d.typeVariables b
  let b ← p.writeMembers (·.comment.isSome) (p.writeVariable level false) d.instanceVariables b
  let b ← p.writeMembers (·.comment.isSome) (p.writeComputed level) d.computed b
  p.writeFunctions level false d.functions b

def startType (level : Nat) (omitted : Bool) (d : TypeDef) (b : Buffer) : Printed Buffer := do
  let b := d.comment.elim b (p.writeTypeComment level · b)
  let head ← p.typeHead d omitted
  pure (openBlock p.style.eol ((b.append (p.indent level ++ head)).ensure " "))

mutual

def writeType (level : Nat) (omitted : Bool) (d : TypeDef) (b : Buffer) : Printed Buffer :=
  match d with
  | ⟨name, kind, visibility, conformances, nested, typeVariables, instanceVariables, computed,
      functions, comment⟩ => do
      let d : TypeDef := ⟨name, kind, visibility, conformances, [], typeVariables,
        instanceVariables, computed, functions, comment⟩
      let b ← p.startType level omitted d b
      let b ← writeNested (level + 1) nested b
      let b ← p.writeOwnMembers (level + 1) d b
      pure (p.closeBlock level p.style.eol b)

def writeNested (level : Nat) : List TypeDef → Buffer → Printed Buffer
  | [], b => pure b
  | d :: rest, b => do
      let b ← writeType level false d (p.blankLine b)
      writeNested level rest b

end

def writeStructures (level : Nat) (omitted : Bool) (structures : List TypeDef) (b : Buffer) :
    Printed Buffer :=
  structures.foldlM (fun b d => p.writeType level omitted d (p.blankLine b)) b

/-- Members of a public extension are public without saying so. -/
def writeExtension (e : Extension) (b : Buffer) : Printed Buffer := do
  let omitted := e.visibility == .isPublic
  let type ← p.typeText e.extendedType
  let head := p.visibilityText e.visibility false ++ p.spelling.extensionKeyword ++ " " ++ type
  let b ← if e.genericConstraints.isEmpty then pure (p.line 0 (head ++ " \x7b") b)
    else do
      let text ← p.whereText e.genericConstraints
      pure (p.lines 0 ["\x7b"] (p.line 1 text (p.line 0 head b)))
  let b ← p.writeStructures 1 omitted e.structures b
  let b ← p.writeFunctions 1 omitted e.functions b
  pure (p.line 0 "\x7d" b)

def separate (b : Buffer) : Buffer := if b.isEmpty then b else p.blankLine b

def headerLines (header : Option String) : List String :=
  match nonEmpty? header with
  | some text =>
      (Text.lines text).map fun line => Text.trimEnd (p.spelling.lineComment ++ " " ++ line)
  | none => []

def writeUnit (u : CompilationUnit) : Printed Buffer := do
  let b := p.lines 0 (p.headerLines u.header) .empty
  let b := p.lines 0 (u.imports.map (p.spelling.importKeyword ++ " " ++ ·)) b
  let b := p.lines 0 (u.reexports.map (p.spelling.reexportKeyword ++ " " ++ ·)) b
  let b ← u.structures.foldlM (fun b d => p.writeType 0 false d (p.separate b)) b
  let b ← u.functions.foldlM (fun b f => p.writeFunction 0 false f (p.separate b)) b
  u.extensions.foldlM (fun b e => p.writeExtension e (p.separate b)) b

end Printer

def CompilationUnit.render (u : CompilationUnit) (style : Style) (spelling : Spelling) :
    Printed String :=
  (Printer.writeUnit ⟨style, spelling⟩ u).map Buffer.text

inductive Tree where
  | unit (u : CompilationUnit)
  | node (n : Node)
  deriving Repr

/-- The text of a tree; only a unit has a text on its own. -/
def Tree.render (tree : Tree) (style : Style) (spelling : Spelling) : Printed String :=
  match tree with
  | .unit u => u.render style spelling
  | .node n => .error (.unrenderable n.kindName)

end RecordLoom.Code
