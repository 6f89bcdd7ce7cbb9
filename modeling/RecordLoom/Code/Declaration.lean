import RecordLoom.Code.Node

/-!
Declarations of generated code, up to the unit that one file holds.  Members keep the order in which
they are listed.
-/

namespace RecordLoom.Code

inductive Visibility where
  | isPublic
  | isInternal
  | isPrivate
  deriving DecidableEq, Repr

def Visibility.name : Visibility → String
  | isPublic => "public"
  | isInternal => "internal"
  | isPrivate => "private"

inductive TypeKind where
  | struct
  | enumeration
  | classType
  deriving DecidableEq, Repr

def TypeKind.name : TypeKind → String
  | struct => "struct"
  | enumeration => "enum"
  | classType => "class"

/-- A function parameter.  Callers write its label, by default its name, unless it has none. -/
structure Param where
  name : String
  type : Node
  label : Option String := none
  default : Option Node := none
  unlabeled : Bool := false
  deriving Repr

/-- A type parameter that conforms to a type, or is the same type. -/
structure GenericConstraint where
  parameter : String
  type : Node
  sameType : Bool := false
  deriving Repr

structure Signature where
  name : String
  parameters : List Param := []
  returns : Node := .voidType
  genericParameters : List String := []
  genericConstraints : List GenericConstraint := []
  throws : Bool := false
  isAsync : Bool := false
  visibility : Visibility := .isPublic
  isStatic : Bool := false
  isMutating : Bool := false
  isInitializer : Bool := false
  deriving Repr

structure ParamDoc where
  name : String
  info : String
  deriving DecidableEq, Repr

structure FunctionComment where
  headline : String
  info : Option String := none
  sample : Option String := none
  parameters : List ParamDoc := []
  throwsInfo : Option String := none
  returnInfo : Option String := none
  deriving DecidableEq, Repr

structure CodeExample where
  headline : String
  code : String
  language : Option String := none
  deriving DecidableEq, Repr

structure TypeComment where
  headline : String
  info : Option String := none
  examples : List CodeExample := []
  sql : List CodeExample := []
  deriving DecidableEq, Repr

structure Function where
  signature : Signature
  body : List Node := []
  comment : Option FunctionComment := none
  inlinable : Bool := false
  discardable : Bool := false
  deriving Repr

/-- A stored member.  Code without a type and without a value declares nothing. -/
structure Variable where
  name : String
  type : Option Node := none
  value : Option Node := none
  constant : Bool := false
  visibility : Visibility := .isPublic
  comment : Option String := none
  deriving Repr

def Variable.isTyped (v : Variable) : Bool := v.type.isSome || v.value.isSome

structure ComputedProperty where
  name : String
  type : Node
  body : List Node := []
  visibility : Visibility := .isPublic
  comment : Option String := none
  inlinable : Bool := false
  deriving Repr

/-- A type with its members; `typeVariables` are stored once for the type. -/
structure TypeDef where
  name : String
  kind : TypeKind := .struct
  visibility : Visibility := .isPublic
  conformances : List Node := []
  nestedTypes : List TypeDef := []
  typeVariables : List Variable := []
  instanceVariables : List Variable := []
  computed : List ComputedProperty := []
  functions : List Function := []
  comment : Option TypeComment := none
  deriving Repr

structure Extension where
  extendedType : Node
  visibility : Visibility := .isPublic
  genericConstraints : List GenericConstraint := []
  structures : List TypeDef := []
  functions : List Function := []
  deriving Repr

structure CompilationUnit where
  name : String
  header : Option String := none
  imports : List String := []
  reexports : List String := []
  structures : List TypeDef := []
  functions : List Function := []
  extensions : List Extension := []
  deriving Repr

end RecordLoom.Code
