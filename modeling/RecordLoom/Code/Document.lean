import RecordLoom.Code.Declaration
import RecordLoom.Failure
import RecordLoom.Json.Writer

/-!
Code as documents: every node is an object with the name of its class and all of its fields.
-/

namespace RecordLoom.Code

namespace Document

def tagged (kind : String) (fields : List (String × Json)) : Json :=
  .obj (("node", .str kind) :: fields)

def text? : Option String → Json := Failure.optionalText

def texts (items : List String) : Json := .arr (items.map .str)

def optional {α : Type} (write : α → Json) (value : Option α) : Json := value.elim .null write

def listed {α : Type} (write : α → Json) (items : List α) : Json := .arr (items.map write)

def double (x : Number.Double) : Json :=
  .obj [("f64", .str (.ofList (Json.hexDigits 16 x.bits.toNat)))]

def bytes (values : List UInt8) : Json :=
  .obj [("hex", .str (.ofList (values.flatMap fun byte => Json.hexDigits 2 byte.toNat)))]

def comparison : Comparison → Json
  | .equal => .str "equal"
  | .notEqual => .str "not_equal"
  | .lessThan => .str "less_than"
  | .greaterThanOrEqual => .str "greater_than_or_equal"

mutual

def node : Node → Json
  | .voidType => tagged "VoidType" []
  | .namedType name arguments =>
      tagged "NamedType" [("name", .str name), ("arguments", .arr (nodes arguments))]
  | .optionalType wrapped => tagged "OptionalType" [("wrapped", node wrapped)]
  | .arrayType element => tagged "ArrayType" [("element", node element)]
  | .qualifiedType base name => tagged "QualifiedType" [("base", node base), ("name", .str name)]
  | .keyPathType root value => tagged "KeyPathType" [("root", node root), ("value", node value)]
  | .closureType parameters returns throws escaping =>
      tagged "ClosureType"
        [("parameters", .arr (nodes parameters)), ("returns", node returns),
         ("throws", .bool throws), ("escaping", .bool escaping)]
  | .nilLiteral => tagged "NilLiteral" []
  | .boolLiteral value => tagged "BoolLiteral" [("value", .bool value)]
  | .intLiteral value => tagged "IntLiteral" [("value", .int value)]
  | .doubleLiteral value => tagged "DoubleLiteral" [("value", double value)]
  | .stringLiteral value => tagged "StringLiteral" [("value", .str value)]
  | .intArrayLiteral values => tagged "IntArrayLiteral" [("values", .arr (values.map .int))]
  | .dataLiteral values => tagged "DataLiteral" [("value", bytes values)]
  | .variableRef name => tagged "VariableRef" [("name", .str name)]
  | .selfRef => tagged "SelfRef" []
  | .member base name => tagged "Member" [("base", node base), ("name", .str name)]
  | .keyPath property root =>
      tagged "KeyPath" [("property", .str property), ("root", node? root)]
  | .typeExpression type => tagged "TypeExpression" [("type", node type)]
  | .call call => invocation call
  | .closure parameters body =>
      tagged "Closure" [("parameters", texts parameters), ("body", .arr (nodes body))]
  | .arrayExpression elements => tagged "ArrayExpression" [("elements", .arr (nodes elements))]
  | .compare lhs operator rhs =>
      tagged "Compare" [("lhs", node lhs), ("operator", comparison operator), ("rhs", node rhs)]
  | .rawExpression text => tagged "RawExpression" [("text", .str text)]
  | .variableDecl name value type mutable =>
      tagged "VariableDecl"
        [("name", .str name), ("value", node value), ("type", node? type),
         ("mutable", .bool mutable)]
  | .assignment target value =>
      tagged "Assignment" [("target", node target), ("value", node value)]
  | .callStatement call => tagged "CallStatement" [("call", invocation call)]
  | .conditional conditions otherwise =>
      tagged "Conditional"
        [("branches", .arr (branches conditions)), ("otherwise", .arr (nodes otherwise))]
  | .ret value => tagged "Return" [("value", node? value)]
  | .group statements => tagged "Group" [("statements", .arr (nodes statements))]
  | .rawStatement text => tagged "RawStatement" [("text", .str text)]
  | .stray kind => tagged kind.name []

def node? : Option Node → Json
  | none => .null
  | some value => node value

def nodes : List Node → List Json
  | [] => []
  | value :: rest => node value :: nodes rest

def invocation : Invocation → Json
  | .mk name values base tries awaits trailing =>
      tagged "Call"
        [("name", .str name), ("arguments", .arr (arguments values)), ("base", node? base),
         ("tries", .bool tries), ("awaits", .bool awaits), ("trailing", trailing? trailing)]

def arguments : List Argument → List Json
  | [] => []
  | .mk label value :: rest =>
      tagged "Argument" [("value", node value), ("label", text? label)] :: arguments rest

def trailing? : Option Trailing → Json
  | none => .null
  | some (.mk parameters body) =>
      tagged "TrailingClosure" [("parameters", texts parameters), ("body", .arr (nodes body))]

def branches : List Branch → List Json
  | [] => []
  | .mk condition body :: rest =>
      tagged "Branch" [("condition", node condition), ("body", .arr (nodes body))] :: branches rest

end

def visibility (v : Visibility) : Json := .str v.name

def constraint (c : GenericConstraint) : Json :=
  tagged "GenericConstraint"
    [("parameter", .str c.parameter), ("type", node c.type), ("same_type", .bool c.sameType)]

def param (p : Param) : Json :=
  tagged "Param"
    [("name", .str p.name), ("type", node p.type), ("label", text? p.label),
     ("default", node? p.default), ("unlabeled", .bool p.unlabeled)]

def signature (s : Signature) : Json :=
  tagged "FunctionSig"
    [("name", .str s.name), ("parameters", listed param s.parameters),
     ("return_type", node s.returns), ("generic_parameters", texts s.genericParameters),
     ("generic_constraints", listed constraint s.genericConstraints), ("throws", .bool s.throws),
     ("is_async", .bool s.isAsync), ("visibility", visibility s.visibility),
     ("is_static", .bool s.isStatic), ("is_mutating", .bool s.isMutating),
     ("is_initializer", .bool s.isInitializer)]

def paramDoc (d : ParamDoc) : Json :=
  tagged "ParamDoc" [("name", .str d.name), ("info", .str d.info)]

def functionComment (c : FunctionComment) : Json :=
  tagged "FunctionComment"
    [("headline", .str c.headline), ("info", text? c.info), ("example", text? c.sample),
     ("parameters", listed paramDoc c.parameters), ("throws_info", text? c.throwsInfo),
     ("return_info", text? c.returnInfo)]

def codeExample (e : CodeExample) : Json :=
  tagged "CodeExample"
    [("headline", .str e.headline), ("code", .str e.code), ("language", text? e.language)]

def typeComment (c : TypeComment) : Json :=
  tagged "TypeComment"
    [("headline", .str c.headline), ("info", text? c.info),
     ("examples", listed codeExample c.examples), ("sql", listed codeExample c.sql)]

def function (f : Function) : Json :=
  tagged "FunctionDef"
    [("declaration", signature f.signature), ("body", .arr (nodes f.body)),
     ("comment", optional functionComment f.comment), ("inlinable", .bool f.inlinable),
     ("discardable_result", .bool f.discardable)]

def storedVariable (v : Variable) : Json :=
  tagged "InstanceVariable"
    [("name", .str v.name), ("type", node? v.type), ("value", node? v.value),
     ("constant", .bool v.constant), ("visibility", visibility v.visibility),
     ("comment", text? v.comment)]

def computed (c : ComputedProperty) : Json :=
  tagged "ComputedProperty"
    [("name", .str c.name), ("type", node c.type), ("body", .arr (nodes c.body)),
     ("visibility", visibility c.visibility), ("comment", text? c.comment),
     ("inlinable", .bool c.inlinable)]

mutual

def typeDef (d : TypeDef) : Json :=
  match d with
  | ⟨name, kind, visible, conformances, nested, typeVariables, instanceVariables, properties,
      functions, comment⟩ =>
      tagged "TypeDef"
        [("name", .str name), ("kind", .str kind.name), ("visibility", visibility visible),
         ("conformances", .arr (nodes conformances)), ("nested_types", .arr (typeDefs nested)),
         ("type_variables", listed storedVariable typeVariables),
         ("variables", listed storedVariable instanceVariables),
         ("computed_properties", listed computed properties),
         ("functions", listed function functions), ("comment", optional typeComment comment)]

def typeDefs : List TypeDef → List Json
  | [] => []
  | d :: rest => typeDef d :: typeDefs rest

end

def extensionDef (e : Extension) : Json :=
  tagged "ExtensionDef"
    [("extended_type", node e.extendedType), ("visibility", visibility e.visibility),
     ("generic_constraints", listed constraint e.genericConstraints),
     ("structures", .arr (typeDefs e.structures)), ("functions", listed function e.functions)]

end Document

def CompilationUnit.document (u : CompilationUnit) : Json :=
  Document.tagged "CompilationUnit"
    [("name", .str u.name), ("header", Document.text? u.header),
     ("imports", Document.texts u.imports), ("reexports", Document.texts u.reexports),
     ("structures", .arr (Document.typeDefs u.structures)),
     ("functions", Document.listed Document.function u.functions),
     ("extensions", Document.listed Document.extensionDef u.extensions)]

end RecordLoom.Code
