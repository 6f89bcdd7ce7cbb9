import RecordLoom.Number.Double

/-!
Trees of generated code.  Type references, expressions and statements are one type of nodes, so that
a tree can hold any node in any of their places; the printer decides which of them have a text.
Nodes name things and never carry the spelling of the language that they are printed in.
-/

namespace RecordLoom.Code

inductive Comparison where
  | equal
  | notEqual
  | lessThan
  | greaterThanOrEqual
  deriving DecidableEq, Repr

def Comparison.name : Comparison → String
  | equal => "equal"
  | notEqual => "not_equal"
  | lessThan => "less_than"
  | greaterThanOrEqual => "greater_than_or_equal"

/-- The classes of nodes that stand in places of their own: parts of code, and declarations. -/
inductive DeclarationKind where
  | argument
  | trailingClosure
  | branch
  | param
  | genericConstraint
  | functionSig
  | paramDoc
  | functionComment
  | codeExample
  | typeComment
  | functionDef
  | instanceVariable
  | computedProperty
  | typeDef
  | extensionDef
  | compilationUnit
  deriving DecidableEq, Repr

def DeclarationKind.name : DeclarationKind → String
  | argument => "Argument"
  | trailingClosure => "TrailingClosure"
  | branch => "Branch"
  | param => "Param"
  | genericConstraint => "GenericConstraint"
  | functionSig => "FunctionSig"
  | paramDoc => "ParamDoc"
  | functionComment => "FunctionComment"
  | codeExample => "CodeExample"
  | typeComment => "TypeComment"
  | functionDef => "FunctionDef"
  | instanceVariable => "InstanceVariable"
  | computedProperty => "ComputedProperty"
  | typeDef => "TypeDef"
  | extensionDef => "ExtensionDef"
  | compilationUnit => "CompilationUnit"

mutual

inductive Node where
  -- type references
  | voidType
  | namedType (name : String) (arguments : List Node)
  | optionalType (wrapped : Node)
  | arrayType (element : Node)
  | qualifiedType (base : Node) (name : String)
  | keyPathType (root value : Node)
  | closureType (parameters : List Node) (returns : Node) (throws escaping : Bool)
  -- literals
  | nilLiteral
  | boolLiteral (value : Bool)
  | intLiteral (value : Int)
  | doubleLiteral (value : Number.Double)
  | stringLiteral (value : String)
  | intArrayLiteral (values : List Int)
  | dataLiteral (bytes : List UInt8)
  -- other expressions
  | variableRef (name : String)
  | selfRef
  | member (base : Node) (name : String)
  | keyPath (property : String) (root : Option Node)
  | typeExpression (type : Node)
  | call (call : Invocation)
  | closure (parameters : List String) (body : List Node)
  | arrayExpression (elements : List Node)
  | compare (lhs : Node) (operator : Comparison) (rhs : Node)
  | rawExpression (text : String)
  -- statements
  | variableDecl (name : String) (value : Node) (type : Option Node) (mutable : Bool)
  | assignment (target value : Node)
  | callStatement (call : Invocation)
  | conditional (branches : List Branch) (otherwise : List Node)
  | ret (value : Option Node)
  | group (statements : List Node)
  | rawStatement (text : String)
  /-- A node that never stands for a type, an expression or a statement. -/
  | stray (kind : DeclarationKind)
  deriving Repr

/-- A function call; `tries` marks one that can throw, `awaits` one that is asynchronous. -/
inductive Invocation where
  | mk (name : String) (arguments : List Argument) (base : Option Node) (tries awaits : Bool)
      (trailing : Option Trailing)
  deriving Repr

inductive Argument where
  | mk (label : Option String) (value : Node)
  deriving Repr

inductive Trailing where
  | mk (parameters : List String) (body : List Node)
  deriving Repr

inductive Branch where
  | mk (condition : Node) (body : List Node)
  deriving Repr

end

namespace Node

def kindName : Node → String
  | voidType => "VoidType"
  | namedType .. => "NamedType"
  | optionalType .. => "OptionalType"
  | arrayType .. => "ArrayType"
  | qualifiedType .. => "QualifiedType"
  | keyPathType .. => "KeyPathType"
  | closureType .. => "ClosureType"
  | nilLiteral => "NilLiteral"
  | boolLiteral .. => "BoolLiteral"
  | intLiteral .. => "IntLiteral"
  | doubleLiteral .. => "DoubleLiteral"
  | stringLiteral .. => "StringLiteral"
  | intArrayLiteral .. => "IntArrayLiteral"
  | dataLiteral .. => "DataLiteral"
  | variableRef .. => "VariableRef"
  | selfRef => "SelfRef"
  | member .. => "Member"
  | keyPath .. => "KeyPath"
  | typeExpression .. => "TypeExpression"
  | call .. => "Call"
  | closure .. => "Closure"
  | arrayExpression .. => "ArrayExpression"
  | compare .. => "Compare"
  | rawExpression .. => "RawExpression"
  | variableDecl .. => "VariableDecl"
  | assignment .. => "Assignment"
  | callStatement .. => "CallStatement"
  | conditional .. => "Conditional"
  | ret .. => "Return"
  | group .. => "Group"
  | rawStatement .. => "RawStatement"
  | stray kind => kind.name

def named (name : String) : Node := namedType name []

end Node

end RecordLoom.Code
